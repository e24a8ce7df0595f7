import Colloquy.Settings.Basic
import Colloquy.Toml.Locate

/-! # The setting that is to blame

A document that gives no settings is reported with the place of the value that is refused,
`Settings.wording`.  Since every setting may be left out, such a value is refused even if nothing
else is set. -/

namespace Colloquy

mutual

/-- The names that lead to the first value in `v` that is refused by itself, where `refuses` tells
whether a value in place of `v` is. -/
def Json.blame (refuses : Json → Bool) : Json → List String
  | .obj fields => if refuses (.obj []) then [] else blameFields refuses fields
  | _ => []

/-- The names that lead to the first value among members that is refused by itself. -/
def Json.blameFields (refuses : Json → Bool) : List (String × Json) → List String
  | [] => []
  | (name, v) :: rest =>
    if refuses (.obj [(name, v)]) then name :: blame (fun w => refuses (.obj [(name, w)])) v
    else blameFields refuses rest

end

namespace Settings

/-- Whether a document gives no settings. -/
def refuses : Json → Bool
  | .obj fields => !(record.ofFields fields).isOk
  | _ => true

/-- Reports about the first value that is refused.  Faults of form are not told apart. -/
def wording : Toml.Wording where
  malformed _ := ⟨0, 0, "the text is not well-formed"⟩
  place text := Toml.locate text (Json.blameFields refuses ((Toml.parse text).getD []))

end Settings

end Colloquy
