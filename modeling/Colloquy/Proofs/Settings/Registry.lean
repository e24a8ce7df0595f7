import Colloquy.Proofs.Except
import Colloquy.Proofs.NameMap
import Colloquy.Settings.Endpoints

/-! # What settings register

Settings name providers, each by its own section or as the default.  A name resolves to an address
and a key, `Settings.HasUrl` and `Settings.HasKey`, and to one endpoint made of these.  The main
statement is `Settings.registry_resolves`: if every name has an address, each gets its endpoint, in
whatever order the sections are gone through, and otherwise some name without one is blamed. -/

namespace Colloquy

/-! ## Addresses and keys -/

/-- An address without the slashes at its end. -/
structure Wire.Endpoint.Trimmed (url base : String) : Prop where
  /-- Only slashes were dropped. -/
  slashes : ∃ n, url.toList = base.toList ++ List.replicate n '/'
  /-- None is left. -/
  last : base.toList.getLast? ≠ some '/'

/-- **`trimSlashes` drops the slashes at the end.** -/
theorem Wire.Endpoint.trimmed_trimSlashes (url : String) : Trimmed url (trimSlashes url) := by
  have parts := List.takeWhile_append_dropWhile (p := (· = '/')) (l := url.toList.reverse)
  constructor
  case slashes =>
    have dropped := List.eq_replicate_of_mem (a := '/')
      fun c (mem : c ∈ url.toList.reverse.takeWhile (· = '/')) =>
        of_decide_eq_true (List.all_eq_true.mp List.all_takeWhile c mem)
    refine ⟨(url.toList.reverse.takeWhile (· = '/')).length, ?_⟩
    rw [trimSlashes, String.toList_ofList, ← List.reverse_replicate, ← dropped,
      ← List.reverse_append, parts, List.reverse_reverse]
  case last =>
    rw [trimSlashes, String.toList_ofList, List.getLast?_reverse]
    intro slash
    have other := List.head?_dropWhile_not (· = '/') url.toList.reverse
    simp [slash] at other

namespace Settings

variable {s : Settings} {provider url : String}

/-- Whether a provider is named: as the default, or by a section of its own. -/
def Names (s : Settings) (provider : String) : Prop :=
  provider = s.defaultProvider ∨ ∃ own, s.providers.get? provider = some own

/-- Whether a provider's address is left to its section and to what is well known. -/
def Unoverridden (s : Settings) (provider : String) : Prop :=
  provider = s.defaultProvider → s.baseUrl = none

/-- The address that is set for a provider. -/
inductive HasUrl (s : Settings) (provider : String) : String → Prop where
  /-- The general address is that of the default provider. -/
  | general {url : String} (default : provider = s.defaultProvider) (set : s.baseUrl = some url) :
    HasUrl s provider url
  /-- Without it, a provider has the address of its section. -/
  | own {own : ProviderSettings} {url : String} (free : s.Unoverridden provider)
    (there : s.providers.get? provider = some own) (set : own.apiUrl = some url) :
    HasUrl s provider url
  /-- Without that either, it has the one that is well known. -/
  | wellKnown {url : String} (free : s.Unoverridden provider)
    (unset : ∀ own, s.providers.get? provider = some own → own.apiUrl = none)
    (known : wellKnownUrl? provider = some url) : HasUrl s provider url

/-- The key that is set for a provider, if there is one. -/
inductive HasKey (s : Settings) (provider : String) : Option String → Prop where
  /-- The key of its section. -/
  | own {own : ProviderSettings} {key : String} (there : s.providers.get? provider = some own)
    (set : own.apiKey = some key) : HasKey s provider (some key)
  /-- Without it, the general key, or none. -/
  | general (unset : ∀ own, s.providers.get? provider = some own → own.apiKey = none) :
    HasKey s provider s.apiKey

/-- What a section says, if there is one and it says so. -/
theorem own_eq_none {α : Type} {f : ProviderSettings → Option α} :
    (s.providers.get? provider).bind f = none ↔
      ∀ own, s.providers.get? provider = some own → f own = none :=
  Option.bind_eq_none_iff

/-- **`url?` is the address that is set.** -/
theorem url?_eq_some : s.url? provider = some url ↔ s.HasUrl provider url := by
  have overridden : ∀ base, (if provider = s.defaultProvider then s.baseUrl else none) = some base ↔
      provider = s.defaultProvider ∧ s.baseUrl = some base := by
    intro base
    simp
  have free : (if provider = s.defaultProvider then s.baseUrl else none) = none ↔
      s.Unoverridden provider := by
    simp [Unoverridden]
  rw [url?, Option.or_eq_some_iff, Option.or_eq_some_iff, overridden, free, own_eq_none,
    Option.bind_eq_some_iff]
  constructor
  · rintro (⟨default, set⟩ | ⟨free, ⟨own, there, set⟩ | ⟨unset, known⟩⟩)
    · exact .general default set
    · exact .own free there set
    · exact .wellKnown free unset known
  · rintro (⟨default, set⟩ | ⟨free, there, set⟩ | ⟨free, unset, known⟩)
    · exact .inl ⟨default, set⟩
    · exact .inr ⟨free, .inl ⟨_, there, set⟩⟩
    · exact .inr ⟨free, .inr ⟨unset, known⟩⟩

/-- `url?` is `none` if no address is set. -/
theorem url?_eq_none : s.url? provider = none ↔ ∀ url, ¬ s.HasUrl provider url := by
  simp only [← url?_eq_some]
  exact Option.eq_none_iff_forall_ne_some

/-- `key` is the key that is set, or else empty. -/
theorem exists_hasKey (s : Settings) (provider : String) :
    ∃ key, s.HasKey provider key ∧ s.key provider = key.getD "" := by
  rw [key]
  cases own : (s.providers.get? provider).bind ProviderSettings.apiKey with
  | none => exact ⟨s.apiKey, .general (own_eq_none.mp own), rfl⟩
  | some key =>
    obtain ⟨_, there, set⟩ := Option.bind_eq_some_iff.mp own
    exact ⟨some key, .own there set, rfl⟩

/-! ## Endpoints -/

/-- Whether an endpoint is the one that settings make for a provider. -/
structure Makes (s : Settings) (provider : String) (e : Wire.Endpoint) : Prop where
  /-- It has the provider's name. -/
  name : e.name = provider
  /-- It has the address that is set, without slashes at its end. -/
  url : ∃ url, s.HasUrl provider url ∧ Wire.Endpoint.Trimmed url e.baseUrl
  /-- It has the key that is set; if none is, it sends none. -/
  key : ∃ key, s.HasKey provider key ∧ e.apiKey = key.getD "" ∧ (key = none → e.credentials = [])
  /-- Requests are retried as the settings of requests say. -/
  retry : e.retry = ⟨s.client.maxRetries, .ofSeconds s.client.attemptTimeoutSecs,
    .ofSeconds s.client.totalTimeoutSecs, Http.RetryPolicy.standard.baseDelay⟩
  /-- Requests carry the header fields that are set. -/
  headers : e.headers = s.client.headers.entries

/-- The failure for want of an address. -/
def lacksUrl (provider : String) : ProviderError :=
  .notConfigured ("no api_url configured for provider \"" ++ provider ++ "\"")

/-- **`endpoint` makes the endpoint of a provider with an address**, and blames one without. -/
theorem endpoint_cases (s : Settings) (provider : String) :
    (∃ e, s.endpoint provider = .ok e ∧ s.Makes provider e) ∨
      (∀ url, ¬ s.HasUrl provider url) ∧ s.endpoint provider = .error (lacksUrl provider) := by
  rw [endpoint]
  cases found : s.url? provider with
  | none => exact .inr ⟨url?_eq_none.mp found, rfl⟩
  | some url =>
    refine .inl ⟨_, rfl, ?_⟩
    obtain ⟨key, has, same⟩ := s.exists_hasKey provider
    constructor
    case name => rfl
    case url => exact ⟨url, url?_eq_some.mp found, Wire.Endpoint.trimmed_trimSlashes url⟩
    case key =>
      refine ⟨key, has, same, ?_⟩
      rintro rfl
      exact if_pos same
    case retry => rfl
    case headers => rfl

/-- `endpoint` succeeds exactly for a provider with an address. -/
theorem exists_endpoint_iff :
    (∃ e, s.endpoint provider = .ok e) ↔ ∃ url, s.HasUrl provider url := by
  rcases s.endpoint_cases provider with ⟨e, made, makes⟩ | ⟨unset, failed⟩
  · obtain ⟨url, has, -⟩ := makes.url
    exact ⟨fun _ => ⟨url, has⟩, fun _ => ⟨e, made⟩⟩
  · refine ⟨fun ⟨e, made⟩ => absurd (failed.symm.trans made) nofun, ?_⟩
    rintro ⟨url, has⟩
    exact absurd has (unset url)

/-! ## Names -/

/-- Whether an order of the sections goes through each of them once. -/
abbrev Order (s : Settings) (sections : List String) : Prop := sections.Perm s.providers.names

variable {sections : List String}

/-- `providerNames` are the names that the settings give. -/
theorem mem_providerNames (order : s.Order sections) :
    provider ∈ s.providerNames sections ↔ s.Names provider := by
  have sectioned : provider ∈ sections ↔ ∃ own, s.providers.get? provider = some own :=
    order.mem_iff.trans NameMap.mem_names
  rw [providerNames]
  split
  · next default =>
    obtain ⟨own, there⟩ := Option.isSome_iff_exists.mp default
    rw [sectioned]
    refine ⟨.inr, ?_⟩
    rintro (rfl | named)
    · exact ⟨own, there⟩
    · exact named
  · rw [List.mem_append, List.mem_singleton, sectioned]
    exact or_comm

/-- Each name occurs once in `providerNames`. -/
theorem nodup_providerNames (order : s.Order sections) : (s.providerNames sections).Nodup := by
  have distinct : sections.Nodup := order.nodup_iff.mpr s.providers.nodup_names
  rw [providerNames]
  split
  · exact distinct
  · next absent =>
    refine List.nodup_append.mpr ⟨distinct, List.nodup_singleton _, ?_⟩
    rintro name mem _ last rfl
    obtain rfl := List.mem_singleton.mp last
    obtain ⟨own, there⟩ := NameMap.mem_names.mp (order.mem_iff.mp mem)
    exact absent (Option.isSome_iff_exists.mpr ⟨own, there⟩)

/-! ## Registries -/

/-- Whether a registry is the one that settings make. -/
structure Registers (s : Settings) (r : Registry) : Prop where
  /-- The names are listed in ascending order, so each of them once. -/
  ascending : r.names.Pairwise (· < ·)
  /-- They are the names that the settings give. -/
  names : ∀ provider, provider ∈ r.names ↔ s.Names provider
  /-- Each of them has the endpoint that the settings make for it. -/
  endpoints : ∀ provider, s.Names provider → ∃ e, r.get? provider = some e ∧ s.Makes provider e
  /-- The default provider is one of them. -/
  default : ∃ e, r.default = .ok e ∧ s.Makes s.defaultProvider e

/-- A name comes with its endpoint. -/
theorem named_eq_ok {entry : String × Wire.Endpoint} :
    (do .ok (provider, ← s.endpoint provider) : Except ProviderError _) = .ok entry ↔
      entry.1 = provider ∧ s.endpoint provider = .ok entry.2 := by
  rw [Except.bind_eq_ok]
  constructor
  · rintro ⟨e, made, same⟩
    obtain rfl := Except.ok.inj same
    exact ⟨rfl, made⟩
  · rintro ⟨rfl, made⟩
    exact ⟨_, made, rfl⟩

/-- Whether a registry has the endpoints of all names and no others. -/
structure Holds (s : Settings) (r : Registry) : Prop where
  /-- The default provider is that of the settings. -/
  default : r.defaultProvider = s.defaultProvider
  /-- What is found is the endpoint of a name. -/
  found : ∀ provider e, r.get? provider = some e ↔
    s.Names provider ∧ s.endpoint provider = .ok e
  /-- Every name has an endpoint. -/
  complete : ∀ provider, s.Names provider → ∃ e, s.endpoint provider = .ok e

/-- A registry is known by the endpoints that it has. -/
theorem Holds.unique {r r' : Registry} (h : s.Holds r) (h' : s.Holds r') : r = r' := by
  obtain ⟨endpoints, default⟩ := r
  obtain ⟨endpoints', default'⟩ := r'
  obtain rfl : default = s.defaultProvider := h.default
  obtain rfl : default' = s.defaultProvider := h'.default
  have same : endpoints = endpoints' := by
    refine NameMap.ext fun provider => Option.ext fun e => ?_
    exact (h.found provider e).trans (h'.found provider e).symm
  rw [same]

/-- **`registryInOrder` gives every name its endpoint, or blames some name without an address.** -/
theorem registryInOrder_cases (order : s.Order sections) :
    (∃ r, s.registryInOrder sections = .ok r ∧ s.Holds r) ∨
      ∃ provider, s.Names provider ∧ (∀ url, ¬ s.HasUrl provider url) ∧
        s.registryInOrder sections = .error (lacksUrl provider) := by
  rw [registryInOrder]
  cases gone : (s.providerNames sections).mapM
      (fun name => do .ok (name, ← s.endpoint name) :
        String → Except ProviderError (String × Wire.Endpoint)) with
  | ok entries =>
    -- The names are distinct, so no endpoint replaces another.
    have names : s.providerNames sections = entries.map Prod.fst := by
      rw [← List.forall₂_eq_eq_eq, List.forall₂_map_right_iff]
      exact (Except.mapM_eq_ok.mp gone).imp fun name entry made => (named_eq_ok.mp made).1.symm
    have stands : ∀ {provider}, s.Names provider → ∃ e, (provider, e) ∈ entries := by
      intro provider named
      have mem := (mem_providerNames order).mpr named
      rw [names] at mem
      obtain ⟨⟨_, e⟩, there, rfl⟩ := List.mem_map.mp mem
      exact ⟨e, there⟩
    have made : ∀ {provider e}, (provider, e) ∈ entries → s.endpoint provider = .ok e := by
      intro provider e mem
      obtain ⟨name, -, made⟩ := Except.exists_of_mem_of_mapM gone mem
      obtain ⟨rfl, made⟩ := named_eq_ok.mp made
      exact made
    have found : ∀ {provider e}, (NameMap.ofList entries).get? provider = some e ↔
        (provider, e) ∈ entries :=
      NameMap.get?_ofList_eq_some (names ▸ nodup_providerNames order)
    refine .inl ⟨⟨.ofList entries, s.defaultProvider⟩, rfl, rfl, fun provider e => ?_, ?_⟩
    · refine found.trans ⟨fun mem => ⟨(mem_providerNames order).mp ?_, made mem⟩, ?_⟩
      · rw [names]
        exact List.mem_map_of_mem mem
      · rintro ⟨named, own⟩
        obtain ⟨e', mem⟩ := stands named
        rwa [← Except.ok.inj ((made mem).symm.trans own)]
    · intro provider named
      obtain ⟨e, mem⟩ := stands named
      exact ⟨e, made mem⟩
  | error e =>
    -- The first name that fails is to blame, whichever that is in this order.
    obtain ⟨before, provider, after, split, -, failed⟩ := Except.mapM_eq_error.mp gone
    have named : s.Names provider := (mem_providerNames order).mp (by rw [split]; simp)
    refine .inr ⟨provider, named, ?_⟩
    rcases s.endpoint_cases provider with ⟨made, own, -⟩ | ⟨unset, own⟩
    · rw [own] at failed
      cases failed
    · rw [own] at failed
      exact ⟨unset, congrArg Except.error (Except.error.inj failed).symm⟩

/-- **A registry with the endpoints of all names** is as the settings say. -/
theorem Holds.registers {r : Registry} (h : s.Holds r) : s.Registers r := by
  have own : ∀ provider, s.Names provider →
      ∃ e, r.get? provider = some e ∧ s.Makes provider e := by
    intro provider named
    obtain ⟨e, made⟩ := h.complete provider named
    refine ⟨e, (h.found provider e).mpr ⟨named, made⟩, ?_⟩
    rcases s.endpoint_cases provider with ⟨e', made', makes⟩ | ⟨-, failed⟩
    · rwa [Except.ok.inj (made.symm.trans made')]
    · exact absurd (failed.symm.trans made) nofun
  constructor
  case ascending => exact NameMap.ascending_names _
  case names =>
    intro provider
    rw [Registry.names, NameMap.mem_names]
    refine ⟨fun ⟨e, there⟩ => ((h.found provider e).mp there).1, fun named => ?_⟩
    obtain ⟨e, there, -⟩ := own provider named
    exact ⟨e, there⟩
  case endpoints => exact own
  case default =>
    obtain ⟨e, there, makes⟩ := own s.defaultProvider (.inl rfl)
    exact ⟨e, by rw [Registry.default, h.default, there], makes⟩

/-- Every name has an address then. -/
theorem Holds.exists_hasUrl {r : Registry} (h : s.Holds r) (named : s.Names provider) :
    ∃ url, s.HasUrl provider url :=
  exists_endpoint_iff.mp (h.complete provider named)

/-- The general address bears on the default provider alone. -/
theorem endpoint_of_ne (base : Option String) (other : provider ≠ s.defaultProvider) :
    { s with baseUrl := base }.endpoint provider = s.endpoint provider := by
  have unchanged : { s with baseUrl := base }.url? provider = s.url? provider := by
    rw [url?, url?, if_neg other, if_neg other]
  rw [endpoint, endpoint, unchanged]
  rfl

/-- **`registryInOrder` makes a registry if every name has an address**, and blame a name that has
none otherwise.  The registry has one endpoint a name, made of what is set for it; it does not
depend on the order in which the sections are gone through, and the general address makes no
difference to any provider but the default one. -/
theorem registry_resolves (s : Settings) {sections : List String} (order : s.Order sections) :
    ((∃ r, s.registryInOrder sections = .ok r) ↔
      ∀ provider, s.Names provider → ∃ url, s.HasUrl provider url) ∧
    (∀ r, s.registryInOrder sections = .ok r →
      s.Registers r ∧ s.registry = .ok r ∧
      ∀ base r', { s with baseUrl := base }.registryInOrder sections = .ok r' →
        ∀ provider, provider ≠ s.defaultProvider → r'.get? provider = r.get? provider) ∧
    ∀ e, s.registryInOrder sections = .error e →
      ∃ provider, s.Names provider ∧ (∀ url, ¬ s.HasUrl provider url) ∧
        e = .notConfigured ("no api_url configured for provider \"" ++ provider ++ "\"") := by
  rcases registryInOrder_cases order with ⟨r, made, holds⟩ | ⟨provider, named, unset, failed⟩
  · refine ⟨⟨fun _ _ named => holds.exists_hasUrl named, fun _ => ⟨r, made⟩⟩, ?_, ?_⟩
    · intro r' made'
      obtain rfl := Except.ok.inj (made.symm.trans made')
      refine ⟨holds.registers, ?_, fun base r' changed provider other => ?_⟩
      · rcases registryInOrder_cases (.refl s.providers.names) with
          ⟨r', ascending, holds'⟩ | ⟨provider, named, unset, -⟩
        · rw [registry, ascending, holds.unique holds']
        · obtain ⟨url, has⟩ := holds.exists_hasUrl named
          exact absurd has (unset url)
      · rcases registryInOrder_cases (s := { s with baseUrl := base }) order with
          ⟨r'', made'', holds'⟩ | ⟨_, -, -, failed⟩
        · obtain rfl := Except.ok.inj (made''.symm.trans changed)
          refine Option.ext fun e => ?_
          rw [holds'.found, holds.found, endpoint_of_ne base other]
          exact Iff.rfl
        · exact absurd (failed.symm.trans changed) nofun
    · intro e failed
      exact absurd (made.symm.trans failed) nofun
  · refine ⟨⟨fun ⟨r, made⟩ => ?_, fun all => ?_⟩, fun r made => ?_, fun e failed' => ?_⟩
    · exact absurd (failed.symm.trans made) nofun
    · obtain ⟨url, has⟩ := all provider named
      exact absurd has (unset url)
    · exact absurd (failed.symm.trans made) nofun
    · exact ⟨provider, named, unset, (Except.error.inj (failed.symm.trans failed')).symm⟩

/-- Settings with a general address, a section that has an address and a key of its own, and one
that has neither. -/
def patchwork : Settings :=
  { standard with
    apiKey := some "general"
    baseUrl := some "http://localhost:1/v1//"
    defaultProvider := "mystery"
    providers := .ofList [("local", ⟨some "own", some "http://localhost:2/v1/", none⟩),
      ("groq", .standard)] }

/-- The sections may be gone through in either order. -/
theorem registry_resolves_patchwork :
    patchwork.Order ["local", "groq"] ∧
      ∃ r, patchwork.registryInOrder ["local", "groq"] = .ok r ∧ patchwork.Registers r ∧
        patchwork.registry = .ok r := by
  have order : patchwork.Order ["local", "groq"] := by decide
  have made : ∃ r, patchwork.registryInOrder ["local", "groq"] = .ok r := ⟨_, rfl⟩
  obtain ⟨r, made⟩ := made
  obtain ⟨registers, same, -⟩ := (registry_resolves patchwork order).2.1 r made
  exact ⟨order, r, made, registers, same⟩

end Settings

end Colloquy
