import CloudClient.Settings.Host

namespace CloudClient

namespace Host

/-- The bindings a settings file gives the environment, references resolved in order. -/
def settingsBindings (host : Host) (path : Value) : List (String × Option String) :=
  if host.loadingDisabled then []
  else match host.settingsFile? path with
    | .ok (some content) => host.resolveBindings (Settings.parse content) []
    | _ => []

/-- The first value that bindings give a variable; a binding without a value gives none. -/
def firstValue (bindings : List (String × Option String)) (name : String) : Option String :=
  bindings.findSome? fun binding => if name == binding.1 then binding.2 else Option.none

/-- A variable's value once bindings are loaded: the environment's when set there, else theirs. -/
def effective (host : Host) (bindings : List (String × Option String)) (name : String) :
    Option String :=
  (host.get? name).or (firstValue bindings name)

/-- The effective value of a variable when it is not empty. -/
def effectiveNonEmpty (host : Host) (bindings : List (String × Option String)) (name : String) :
    Option String :=
  (host.effective bindings name).filter (!·.isEmpty)

/-- The token of the first token variable whose effective value is not empty. -/
def effectiveToken (host : Host) (bindings : List (String × Option String)) : Option String :=
  (tokenVariables.filterMap (host.effectiveNonEmpty bindings)).head?

@[simp] theorem firstValue_nil (name : String) : firstValue [] name = Option.none := rfl

theorem firstValue_cons (key name : String) (value : Option String)
    (rest : List (String × Option String)) :
    firstValue ((key, value) :: rest) name =
      if name = key then value.or (firstValue rest name) else firstValue rest name := by
  by_cases same : name = key
  · cases value <;> simp [firstValue, same]
  · simp [firstValue, same]

/-- A binding list that names each key once gives each key the value of its entry. -/
theorem firstValue_of_distinct {bindings : List (String × Option String)}
    (distinct : (bindings.map Prod.fst).Nodup) (name : String) :
    firstValue bindings name = (bindings.lookup name).join := by
  induction bindings with
  | nil => rfl
  | cons binding rest ih =>
    obtain ⟨key, value⟩ := binding
    obtain ⟨fresh, later⟩ := List.nodup_cons.mp distinct
    rw [firstValue_cons, List.lookup_cons, ih later]
    by_cases same : name = key
    · subst same
      have absent : rest.lookup name = Option.none := by
        rw [List.lookup_eq_none_iff]
        intro entry mem
        rw [bne_iff_ne]
        intro same
        exact fresh (List.mem_map.mpr ⟨entry, mem, same.symm⟩)
      cases value <;> simp [absent]
    · have differ : (name == key) = false := by simpa using same
      simp [same, differ]

section Variables

variable (key value : String)

/-- Replacing the value of every entry of one key leaves the value of every other key. -/
theorem lookup_replace_other {name : String} (other : name ≠ key) (entries : List (String × String)) :
    (entries.map fun entry => if entry.1 == key then (key, value) else entry).lookup name =
      entries.lookup name := by
  induction entries with
  | nil => rfl
  | cons entry rest ih =>
    obtain ⟨k, v⟩ := entry
    by_cases here : k = key
    · subst here
      have differ : (name == k) = false := by simpa using other
      simp only [List.map_cons, beq_self_eq_true, if_true, List.lookup_cons, differ, ih]
    · have kept : (k == key) = false := by simpa using here
      simp only [List.map_cons, kept, Bool.false_eq_true, if_false, List.lookup_cons]
      cases name == k
      · exact ih
      · rfl

/-- Replacing the value of every entry of a key that has one gives the key the new value. -/
theorem lookup_replace_self {entries : List (String × String)}
    (present : entries.any (·.1 == key) = true) :
    (entries.map fun entry => if entry.1 == key then (key, value) else entry).lookup key =
      some value := by
  induction entries with
  | nil => simp at present
  | cons entry rest ih =>
    obtain ⟨k, v⟩ := entry
    by_cases here : k = key
    · subst here
      simp only [List.map_cons, beq_self_eq_true, if_true, List.lookup_cons]
    · have kept : (k == key) = false := by simpa using here
      have differ : (key == k) = false := by simpa using Ne.symm here
      have later : rest.any (·.1 == key) = true := by simpa [kept] using present
      simp only [List.map_cons, kept, Bool.false_eq_true, if_false, List.lookup_cons, differ]
      exact ih later

variable (host : Host) (name : String)

/-- Setting a variable gives it the value and leaves the others as they were. -/
theorem get?_setVariable :
    (host.setVariable key value).get? name = if name = key then some value else host.get? name := by
  unfold setVariable get?
  split
  case isTrue present =>
    by_cases same : name = key
    · subst same
      rw [if_pos rfl]
      exact lookup_replace_self name value present
    · rw [if_neg same]
      exact lookup_replace_other key value same _
  case isFalse absent =>
    rw [List.lookup_append, List.lookup_singleton]
    by_cases same : name = key
    · subst same
      have unset : host.environment.lookup name = Option.none := by
        rw [List.lookup_eq_none_iff]
        intro entry mem
        have differ : ¬(entry.1 == name) = true := fun hit =>
          absent (List.any_eq_true.mpr ⟨entry, mem, hit⟩)
        rw [bne_iff_ne, ne_comm]
        simpa using differ
      simp [unset]
    · simp [same]

end Variables

section Loading

/-- Resolving a file's lines names each key once: a later line replaces the value in its place. -/
theorem resolveBindings_distinct (host : Host) (lines : List (String × Option String))
    {done : List (String × Option String)} (distinct : (done.map Prod.fst).Nodup) :
    ((host.resolveBindings lines done).map Prod.fst).Nodup := by
  -- over the lines, with the keys resolved so far distinct
  induction lines generalizing done with
  | nil => exact distinct
  | cons line rest ih =>
    obtain ⟨key, value⟩ := line
    apply ih
    split
    case isTrue present =>
      have keys : ∀ result : Option String,
          ((done.map fun entry => if entry.1 == key then (entry.1, result) else entry).map
            Prod.fst) = done.map Prod.fst := by
        intro result
        simp only [List.map_map]
        congr 1
        funext entry
        by_cases same : entry.1 = key <;> simp [same]
      rw [keys]
      exact distinct
    case isFalse absent =>
      rw [List.map_append, List.nodup_append]
      refine ⟨distinct, List.pairwise_singleton _ _, ?_⟩
      intro old mem new fresh
      simp only [List.map_cons, List.map_nil, List.mem_singleton] at fresh
      obtain ⟨entry, within, rfl⟩ := List.mem_map.mp mem
      intro same
      exact absent (List.any_eq_true.mpr ⟨entry, within, by simp [same, fresh]⟩)

/-- The bindings of a settings file name each key once. -/
theorem settingsBindings_distinct (host : Host) (path : Value) :
    ((host.settingsBindings path).map Prod.fst).Nodup := by
  unfold settingsBindings
  split
  · exact List.nodup_nil
  · split
    · exact resolveBindings_distinct host _ List.nodup_nil
    · exact List.nodup_nil

/-- Setting the absent variables without a fault leaves each variable its effective value. -/
theorem get?_setAbsent {bindings : List (String × Option String)} {host after : Host}
    (loaded : host.setAbsent bindings = (after, Option.none)) (name : String) :
    after.get? name = host.effective bindings name := by
  -- over the bindings, from any host: one the environment has, or one without a value, is
  -- skipped, and one that is set cannot be set again
  induction bindings generalizing host with
  | nil =>
    simp only [setAbsent, Prod.mk.injEq] at loaded
    simp [← loaded.1, effective]
  | cons binding rest ih =>
    obtain ⟨key, value⟩ := binding
    cases value with
    | none =>
      simp only [setAbsent] at loaded
      rw [ih loaded, effective, effective, firstValue_cons]
      by_cases same : name = key <;> simp [same]
    | some v =>
      simp only [setAbsent] at loaded
      split at loaded
      case isTrue set =>
        rw [ih loaded, effective, effective, firstValue_cons]
        by_cases same : name = key
        · subst same
          obtain ⟨current, found⟩ := Option.isSome_iff_exists.mp set
          simp [found]
        · simp [same]
      case isFalse unset =>
        split at loaded
        · cases loaded
        · rw [ih loaded, effective, effective, get?_setVariable, firstValue_cons]
          by_cases same : name = key
          · subst same
            have absent : host.get? name = Option.none := by simpa using unset
            simp [absent]
          · simp [same]

/-- Setting the variables that are absent stops only at one the environment refuses. -/
theorem setAbsent_accepted {bindings : List (String × Option String)}
    (accepted : ∀ key value, (key, some value) ∈ bindings → variableProblem? key value = Option.none)
    (host : Host) : (host.setAbsent bindings).2 = Option.none := by
  induction bindings generalizing host with
  | nil => rfl
  | cons binding rest ih =>
    obtain ⟨key, value⟩ := binding
    have later : ∀ k v, (k, some v) ∈ rest → variableProblem? k v = Option.none :=
      fun k v mem => accepted k v (List.mem_cons_of_mem _ mem)
    cases value with
    | none => exact ih later host
    | some v =>
      simp only [setAbsent]
      split
      · exact ih later host
      · rw [accepted key v List.mem_cons_self]
        exact ih later _

/-- Loading a settings file without a fault leaves each variable its effective value. -/
theorem get?_load {host after : Host} {path : Value} (loaded : host.load path = (after, Option.none))
    (name : String) : after.get? name = host.effective (host.settingsBindings path) name := by
  unfold load at loaded
  unfold settingsBindings
  by_cases disabled : host.loadingDisabled
  · simp only [disabled, if_true, Prod.mk.injEq] at loaded
    simp [← loaded.1, disabled, effective]
  · simp only [disabled, Bool.false_eq_true, if_false] at loaded ⊢
    rcases file : host.settingsFile? path with fault | _ | content
    · simp [file] at loaded
    · simp only [file, Prod.mk.injEq] at loaded
      simp [← loaded.1, effective]
    · simp only [file] at loaded ⊢
      exact get?_setAbsent loaded name

/-- Loading a settings file at a text path never fails when the environment accepts its values. -/
theorem load_accepted (host : Host) (text : String)
    (accepted : ∀ key value, (key, some value) ∈ host.settingsBindings (.str text) →
      variableProblem? key value = Option.none) :
    (host.load (.str text)).2 = Option.none := by
  unfold load
  by_cases disabled : host.loadingDisabled
  · simp [disabled]
  · simp only [disabled, Bool.false_eq_true, if_false, settingsFile?]
    cases read : host.file? text with
    | none => rfl
    | some content =>
      refine setAbsent_accepted (fun key value mem => accepted key value ?_) host
      simpa [settingsBindings, disabled, settingsFile?, read] using mem

end Loading

section Credentials

variable (host : Host) (given : Value)

/-- The token read after loading is the first effective one. -/
theorem tokenFromEnvironment_load {after : Host} {path : Value}
    (loaded : host.load path = (after, Option.none)) :
    after.tokenFromEnvironment = host.effectiveToken (host.settingsBindings path) := by
  simp only [tokenFromEnvironment, effectiveToken, get?_load loaded]
  rfl

/-- Loading the token: the settings file's fault, else the first effective token, else an error. -/
theorem loadToken_outcome :
    (host.loadToken given).1 =
      match (host.load (host.settingsPath given)).2 with
      | some fault => .error fault
      | Option.none =>
        match host.effectiveToken (host.settingsBindings (host.settingsPath given)) with
        | some token => .ok token
        | Option.none => .error (.tokenNotFound (host.settingsPath given).plain) := by
  dsimp only [loadToken]
  rcases loaded : host.load (host.settingsPath given) with ⟨after, _ | fault⟩
  · simp only [tokenFromEnvironment_load host loaded]
    cases host.effectiveToken (host.settingsBindings (host.settingsPath given)) <;> rfl
  · rfl

/-- Loading the storage keys: the settings file's fault, else both effective keys, else an error. -/
theorem loadSpacesKeys_outcome :
    (host.loadSpacesKeys given).1 =
      let bindings := host.settingsBindings (host.settingsPath given)
      match (host.load (host.settingsPath given)).2 with
      | some fault => .error fault
      | Option.none =>
        match host.effectiveNonEmpty bindings spacesKeyVariable,
            host.effectiveNonEmpty bindings spacesSecretVariable with
        | some key, some secret => .ok (key, secret)
        | _, _ => .error (.spacesKeysNotFound (host.settingsPath given).plain) := by
  dsimp only [loadSpacesKeys]
  rcases loaded : host.load (host.settingsPath given) with ⟨after, _ | fault⟩
  · simp only [effectiveNonEmpty, get?_load loaded]
    cases (host.effective (host.settingsBindings (host.settingsPath given)) spacesKeyVariable).filter
        (!·.isEmpty) <;>
      cases (host.effective (host.settingsBindings (host.settingsPath given))
        spacesSecretVariable).filter (!·.isEmpty) <;> rfl
  · rfl

/-- The settings file of a call given a text path or none is a text path. -/
theorem settingsPath_text (textual : given = .none ∨ ∃ text, given = .str text) :
    ∃ text, host.settingsPath given = .str text := by
  unfold settingsPath
  split
  case isTrue named =>
    rcases textual with rfl | ⟨text, rfl⟩
    · simp [Value.truthy] at named
    · exact ⟨text, rfl⟩
  case isFalse =>
    split
    · split
      · exact ⟨_, rfl⟩
      · exact ⟨_, rfl⟩
    · exact ⟨_, rfl⟩

/-- Credentials come from the effective values of their variables, the environment's shadowing
the settings file's; loading the file fails only on a variable the environment refuses. -/
theorem credentials_from_effective_values :
    let path := host.settingsPath given
    let bindings := host.settingsBindings path
    (host.loadToken given).1 =
        (match (host.load path).2 with
        | some fault => .error fault
        | Option.none =>
          match host.effectiveToken bindings with
          | some token => .ok token
          | Option.none => .error (.tokenNotFound path.plain)) ∧
      (host.loadSpacesKeys given).1 =
        (match (host.load path).2 with
        | some fault => .error fault
        | Option.none =>
          match host.effectiveNonEmpty bindings spacesKeyVariable,
              host.effectiveNonEmpty bindings spacesSecretVariable with
          | some key, some secret => .ok (key, secret)
          | _, _ => .error (.spacesKeysNotFound path.plain)) ∧
      (∀ name, firstValue bindings name = (bindings.lookup name).join) ∧
      ((given = .none ∨ ∃ text, given = .str text) → ∃ text, path = .str text) ∧
      (∀ text, path = .str text →
        (∀ key value, (key, some value) ∈ bindings → variableProblem? key value = Option.none) →
        (host.load path).2 = Option.none) ∧
      (Fault.tokenNotFound path.plain).className = "ValueError" ∧
      (Fault.tokenNotFound path.plain).message =
        "DigitalOcean API token not found in " ++ path.plain ∧
      (Fault.spacesKeysNotFound path.plain).className = "ValueError" ∧
      (Fault.spacesKeysNotFound path.plain).message =
        "Spaces credentials not found in " ++ path.plain := by
  intro path bindings
  refine ⟨loadToken_outcome host given, loadSpacesKeys_outcome host given,
    firstValue_of_distinct (settingsBindings_distinct host path), settingsPath_text host given, ?_,
    rfl, rfl, rfl, rfl⟩
  intro text named accepted
  have loaded := load_accepted host text
  rw [← named] at loaded
  exact loaded accepted

end Credentials

/-- A settings file whose token the environment shadows: its token, and the file's keys. -/
theorem credentials_from_effective_values_shadowed :
    let host : Host :=
      { environment := [("DO_TOKEN", "abc")]
        files := [(".env",
          "DO_TOKEN=xyz\nSPACES_ACCESS_KEY_ID=key\nSPACES_SECRET_ACCESS_KEY=secret\n")] }
    host.settingsBindings (.str ".env") =
        [("DO_TOKEN", some "xyz"), ("SPACES_ACCESS_KEY_ID", some "key"),
          ("SPACES_SECRET_ACCESS_KEY", some "secret")] ∧
      (∀ key value, (key, some value) ∈ host.settingsBindings (.str ".env") →
        variableProblem? key value = Option.none) ∧
      (host.load (.str ".env")).2 = Option.none ∧
      (host.loadToken (.str ".env")).1 = .ok "abc" ∧
      (host.loadSpacesKeys (.str ".env")).1 = .ok ("key", "secret") := by
  intro host
  have resolved := credentials_from_effective_values host (.str ".env")
  have named : host.settingsPath (.str ".env") = .str ".env" := rfl
  have bindings : host.settingsBindings (.str ".env") =
      [("DO_TOKEN", some "xyz"), ("SPACES_ACCESS_KEY_ID", some "key"),
        ("SPACES_SECRET_ACCESS_KEY", some "secret")] := by
    decide +kernel
  have accepted : ∀ key value, (key, some value) ∈ host.settingsBindings (.str ".env") →
      variableProblem? key value = Option.none := by
    rw [bindings]
    intro key value listed
    simp only [List.mem_cons, Prod.mk.injEq, Option.some.injEq, List.not_mem_nil,
      or_false] at listed
    rcases listed with ⟨rfl, rfl⟩ | ⟨rfl, rfl⟩ | ⟨rfl, rfl⟩ <;>
      simp only [variableProblem?, String.contains_char_eq] <;> decide
  have loaded : (host.load (.str ".env")).2 = Option.none := by
    have := resolved.2.2.2.2.1 ".env" named
    rw [named] at this
    exact this accepted
  refine ⟨bindings, accepted, loaded, ?_, ?_⟩
  · rw [resolved.1, named, loaded, bindings]
    rfl
  · rw [resolved.2.1, named, loaded, bindings]
    rfl

end Host

end CloudClient
