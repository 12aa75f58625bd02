import DeployService.Proofs.DecimalDigits
import DeployService.Proofs.Trimming
import DeployService.Settings.Basic

/-!
# Where the settings come from

A setting is taken from the first of its variables that gives a text (`IsSource`). All six settings
are read in one way (`Setting.Reads`): there is no such variable, or its text can be read, or it
cannot. What is logged about a setting is one report or none, so that the whole log can be told
apart by settings (`load_reads`).
-/

namespace DeployService

open DeployService.Text

/-! ## Variables -/

/-- The variable is set to a text that is not blank. The text is given without the blanks around it.
-/
inductive Variable.Gives : Variable → String → Prop where
  | text {raw : String} (h : ∃ c ∈ raw.toList, isBlank c = false) : Gives (.text raw) (trim raw)

namespace Settings

theorem usable?_eq_some {v : Variable} {value : String} :
    usable? v = some value ↔ v.Gives value := by
  constructor
  · intro h
    cases v with
    | unset => cases h
    | unreadable => cases h
    | text raw =>
      rw [usable?] at h
      split at h
      · cases h
      · next hblank =>
        cases h
        refine .text ?_
        simpa [isBlankText] using hblank
  · rintro ⟨⟨c, hc, hnot⟩⟩
    have hblank : isBlankText _ = false := List.all_eq_false.mpr ⟨c, hc, by simp [hnot]⟩
    simp only [usable?, hblank, Bool.false_eq_true, if_false]

theorem usable?_eq_none {v : Variable} : usable? v = none ↔ ∀ value, ¬v.Gives value := by
  simp only [Option.eq_none_iff_forall_ne_some, ne_eq, usable?_eq_some]

/-- The first of some variables that gives a text is the variable `name`, and it gives `value`. -/
structure IsSource (env : Environment) (names : List String) (name value : String) : Prop where
  gives : (env name).Gives value
  first : ∃ before after, names = before ++ name :: after ∧
    ∀ other ∈ before, ∀ value, ¬(env other).Gives value

theorem find?_eq_none {env : Environment} {names : List String} :
    find? env names = none ↔ ∀ name ∈ names, ∀ value, ¬(env name).Gives value := by
  induction names with
  | nil => simp [find?]
  | cons name names ih =>
    rw [find?, List.forall_mem_cons, ← usable?_eq_none, ← ih]
    cases usable? (env name) <;> simp

theorem find?_eq_some {env : Environment} {names : List String} {name value : String} :
    find? env names = some (name, value) ↔ IsSource env names name value := by
  constructor
  · intro h
    induction names with
    | nil => cases h
    | cons other names ih =>
      rw [find?] at h
      split at h
      · next v hv =>
        cases h
        exact ⟨usable?_eq_some.mp hv, [], names, rfl, by simp⟩
      · next hnone =>
        obtain ⟨hgives, before, after, rfl, hbefore⟩ := ih h
        have hother := usable?_eq_none.mp hnone
        exact ⟨hgives, other :: before, after, rfl, List.forall_mem_cons.mpr ⟨hother, hbefore⟩⟩
  · rintro ⟨hgives, before, after, rfl, hbefore⟩
    induction before with
    | nil => rw [List.nil_append, find?, usable?_eq_some.mpr hgives]
    | cons other before ih =>
      obtain ⟨hother, hrest⟩ := List.forall_mem_cons.mp hbefore
      rw [List.cons_append, find?, usable?_eq_none.mpr hother]
      exact ih hrest

theorem IsSource.name_mem {env : Environment} {names : List String} {name value : String}
    (h : IsSource env names name value) : name ∈ names := by
  obtain ⟨before, after, rfl, -⟩ := h.first
  simp

/-- There is only one source. -/
theorem IsSource.unique {env : Environment} {names : List String} {name name' value value' : String}
    (h : IsSource env names name value) (h' : IsSource env names name' value') :
    name = name' ∧ value = value' := by
  have heq := (find?_eq_some.mpr h).symm.trans (find?_eq_some.mpr h')
  exact Prod.mk.inj (Option.some.inj heq)

/-! ## Reports -/

/-- What the log says about a variable. -/
inductive Report where
  /-- The deploy service is the one that the variable gives. -/
  | redirected (name value : String)
  /-- The value of the variable is used. -/
  | used (name value : String)
  /-- The variable gives a text that is no value, and the default is used. -/
  | refused (name raw : String) (fault : ValueFault) (default : String)

namespace Report

/-- The variable that the report is about. -/
def name : Report → String
  | redirected name _ => name
  | used name _ => name
  | refused name _ _ _ => name

/-- The report as it is logged. -/
def entry : Report → LogEntry
  | redirected name value =>
    ⟨.warning, "Using the custom deploy service URL " ++ value ++ " from " ++ name ++
      ". It may run an outdated or modified service."⟩
  | used name value =>
    ⟨.info, "Using " ++ value ++ " from the environment variable " ++ name⟩
  | refused name raw fault default =>
    ⟨.warning, "Invalid value " ++ quoted raw ++ " for the environment variable " ++ name ++ " (" ++
      fault.message ++ "). Using the default " ++ default ++ "."⟩

end Report

/-! ## Settings one by one -/

/-- The settings by their names. -/
inductive Setting where
  | controllerUrl | chunkSize | chunksInSequence | chunksInParallel | hidesProgress
  | userAgentSuffix
  deriving DecidableEq

namespace Setting

/-- All settings, in the order in which they are read. -/
def all : List Setting :=
  [controllerUrl, chunkSize, chunksInSequence, chunksInParallel, hidesProgress, userAgentSuffix]

/-- What a setting is. -/
def Value : Setting → Type
  | controllerUrl | userAgentSuffix => Option String
  | chunkSize => Nat
  | chunksInSequence | chunksInParallel | hidesProgress => Bool

/-- The value of a setting. -/
def value (s : Settings) : (setting : Setting) → setting.Value
  | controllerUrl => s.controllerUrl
  | chunkSize => s.chunkSize
  | chunksInSequence => s.chunksInSequence
  | chunksInParallel => s.chunksInParallel
  | hidesProgress => s.hidesProgress
  | userAgentSuffix => s.userAgentSuffix

/-- The value of a setting where no variable gives a text. -/
def default (setting : Setting) : setting.Value := setting.value standard

/-- The variables of a setting, the preferred one first. -/
def names : Setting → List String
  | controllerUrl => [controllerVariable]
  | chunkSize => chunkSizeVariables
  | chunksInSequence => [sequenceVariable]
  | chunksInParallel => [parallelVariable]
  | hidesProgress => [progressVariable]
  | userAgentSuffix => [suffixVariable]

theorem mem_all (setting : Setting) : setting ∈ all := by cases setting <;> decide

/-- Settings have no variables in common. -/
theorem eq_of_mem_names {setting other : Setting} {name : String} (h : name ∈ setting.names)
    (h' : name ∈ other.names) : setting = other := by
  have hall : ∀ s ∈ all, ∀ t ∈ all, ∀ name ∈ s.names, name ∈ t.names → s = t := by
    decide +kernel
  exact hall setting (mem_all setting) other (mem_all other) name h h'

/-- Reads the text of a variable. -/
def read : (setting : Setting) → String → Except ValueFault setting.Value
  | controllerUrl, raw | userAgentSuffix, raw => .ok (some raw)
  | chunkSize, raw => readChunkSize raw
  | chunksInSequence, raw | chunksInParallel, raw | hidesProgress, raw => readBool raw

/-- The default as it is reported. -/
def shownDefault : Setting → String
  | chunkSize => "45"
  | _ => "false"

/-- What is reported about a value that is used. -/
def reports (name raw : String) : (setting : Setting) → setting.Value → List Report
  | controllerUrl, _ => [.redirected name raw]
  | chunkSize, n => [.used name (showNat n)]
  | chunksInSequence, b | chunksInParallel, b | hidesProgress, b => [.used name (showBool b)]
  | userAgentSuffix, _ => []

/-- A setting is read from an environment: its value, and what is reported about it. -/
inductive Reads (env : Environment) (setting : Setting) : setting.Value → List Report → Prop where
  | unset (h : ∀ name ∈ setting.names, ∀ value, ¬(env name).Gives value) :
    Reads env setting setting.default []
  | used {name raw : String} {value : setting.Value}
    (hs : IsSource env setting.names name raw) (hr : setting.read raw = .ok value) :
    Reads env setting value (setting.reports name raw value)
  | refused {name raw : String} {fault : ValueFault}
    (hs : IsSource env setting.names name raw) (hr : setting.read raw = .error fault) :
    Reads env setting setting.default [.refused name raw fault setting.shownDefault]

section

variable {env env' : Environment} {setting : Setting} {v v' : setting.Value} {r r' : List Report}

/-- Nothing but the variables of a setting counts for it. -/
theorem Reads.congr (henv : ∀ name ∈ setting.names, env name = env' name)
    (h : Reads env setting v r) : Reads env' setting v r := by
  have hsource : ∀ {name raw}, IsSource env setting.names name raw →
      IsSource env' setting.names name raw := by
    intro name raw hs
    obtain ⟨before, after, hnames, hbefore⟩ := hs.first
    refine ⟨henv name hs.name_mem ▸ hs.gives, before, after, hnames, fun other ho => ?_⟩
    rw [← henv other (by rw [hnames]; exact List.mem_append_left _ ho)]
    exact hbefore other ho
  cases h with
  | unset h => exact .unset fun name hn => henv name hn ▸ h name hn
  | used hs hr => exact .used (hsource hs) hr
  | refused hs hr => exact .refused (hsource hs) hr

theorem Reads.source_none (hu : ∀ name ∈ setting.names, ∀ value, ¬(env name).Gives value)
    (h : Reads env setting v r) : v = setting.default ∧ r = [] := by
  cases h with
  | unset => exact ⟨rfl, rfl⟩
  | used hs => exact absurd hs.gives (hu _ hs.name_mem _)
  | refused hs => exact absurd hs.gives (hu _ hs.name_mem _)

theorem Reads.source_ok {name raw : String} {value : setting.Value}
    (hs : IsSource env setting.names name raw) (hr : setting.read raw = .ok value)
    (h : Reads env setting v r) : v = value ∧ r = setting.reports name raw value := by
  cases h with
  | unset hu => exact absurd hs.gives (hu _ hs.name_mem _)
  | used hs' hr' =>
    obtain ⟨rfl, rfl⟩ := hs.unique hs'
    obtain rfl := Except.ok.inj (hr.symm.trans hr')
    exact ⟨rfl, rfl⟩
  | refused hs' hr' =>
    obtain ⟨rfl, rfl⟩ := hs.unique hs'
    cases hr.symm.trans hr'

theorem Reads.source_error {name raw : String} {fault : ValueFault}
    (hs : IsSource env setting.names name raw) (hr : setting.read raw = .error fault)
    (h : Reads env setting v r) :
    v = setting.default ∧ r = [.refused name raw fault setting.shownDefault] := by
  cases h with
  | unset hu => exact absurd hs.gives (hu _ hs.name_mem _)
  | used hs' hr' =>
    obtain ⟨rfl, rfl⟩ := hs.unique hs'
    cases hr.symm.trans hr'
  | refused hs' hr' =>
    obtain ⟨rfl, rfl⟩ := hs.unique hs'
    obtain rfl := Except.error.inj (hr.symm.trans hr')
    exact ⟨rfl, rfl⟩

/-- A setting is read in one way only. -/
theorem Reads.unique (h : Reads env setting v r) (h' : Reads env setting v' r') : v = v' := by
  cases h with
  | unset hu => exact (h'.source_none hu).1.symm
  | used hs hr => exact (h'.source_ok hs hr).1.symm
  | refused hs hr => exact (h'.source_error hs hr).1.symm

end

/-- A setting that has a text form is read as every such setting is. -/
theorem property_reads (env : Environment) (setting : Setting) (write : setting.Value → String)
    {read : String → Except ValueFault setting.Value} (hread : setting.read = read)
    (hused : ∀ name raw value, setting.reports name raw value = [.used name (write value)])
    (hdefault : setting.shownDefault = write setting.default) :
    ∃ reports, setting.Reads env (property env setting.names read write setting.default).1
        reports ∧
      (property env setting.names read write setting.default).2 =
        reports.map Report.entry := by
  subst hread
  unfold property
  cases hfind : find? env setting.names with
  | none => exact ⟨[], .unset (find?_eq_none.mp hfind), rfl⟩
  | some source =>
    obtain ⟨name, raw⟩ := source
    have hs := find?_eq_some.mp hfind
    cases hr : setting.read raw with
    | ok value =>
      simp only [hr]
      refine ⟨_, .used hs hr, ?_⟩
      rw [hused]
      rfl
    | error fault =>
      simp only [hr]
      refine ⟨_, .refused hs hr, ?_⟩
      rw [hdefault]
      rfl

theorem controller_reads (env : Environment) :
    ∃ reports, Reads env .controllerUrl (controller env).1 reports ∧
      (controller env).2 = reports.map Report.entry := by
  unfold controller
  cases hfind : find? env [controllerVariable] with
  | none => exact ⟨[], .unset (find?_eq_none.mp hfind), rfl⟩
  | some source => exact ⟨_, .used (find?_eq_some.mp hfind) rfl, rfl⟩

theorem suffix_reads (env : Environment) :
    Reads env .userAgentSuffix ((find? env [suffixVariable]).map (·.2)) [] := by
  cases hfind : find? env [suffixVariable] with
  | none => exact .unset (find?_eq_none.mp hfind)
  | some source => exact .used (find?_eq_some.mp hfind) rfl

end Setting

/-- **What loading does.** Every setting is read, and the log is what is reported about the settings
in turn. -/
theorem load_reads (env : Environment) :
    ∃ reports : Setting → List Report,
      (∀ setting, Setting.Reads env setting (setting.value (load env).1) (reports setting)) ∧
        (load env).2 = (Setting.all.flatMap reports).map Report.entry := by
  have hsize : Setting.chunkSize.shownDefault = showNat Setting.chunkSize.default := by
    decide +kernel
  obtain ⟨r₁, h₁, hlog₁⟩ := Setting.controller_reads env
  obtain ⟨r₂, h₂, hlog₂⟩ := Setting.property_reads env .chunkSize showNat rfl
    (fun _ _ _ => rfl) hsize
  obtain ⟨r₃, h₃, hlog₃⟩ := Setting.property_reads env .chunksInSequence showBool rfl
    (fun _ _ _ => rfl) rfl
  obtain ⟨r₄, h₄, hlog₄⟩ := Setting.property_reads env .chunksInParallel showBool rfl
    (fun _ _ _ => rfl) rfl
  obtain ⟨r₅, h₅, hlog₅⟩ := Setting.property_reads env .hidesProgress showBool rfl
    (fun _ _ _ => rfl) rfl
  refine ⟨fun
    | .controllerUrl => r₁
    | .chunkSize => r₂
    | .chunksInSequence => r₃
    | .chunksInParallel => r₄
    | .hidesProgress => r₅
    | .userAgentSuffix => [], ?_, ?_⟩
  · intro setting
    cases setting with
    | controllerUrl => exact h₁
    | chunkSize => exact h₂
    | chunksInSequence => exact h₃
    | chunksInParallel => exact h₄
    | hidesProgress => exact h₅
    | userAgentSuffix => exact Setting.suffix_reads env
  · have hlog : (Setting.all.flatMap fun
        | .controllerUrl => r₁
        | .chunkSize => r₂
        | .chunksInSequence => r₃
        | .chunksInParallel => r₄
        | .hidesProgress => r₅
        | .userAgentSuffix => []) = r₁ ++ r₂ ++ r₃ ++ r₄ ++ r₅ := by
      simp [Setting.all]
    rw [hlog]
    simp only [List.map_append, ← hlog₁, ← hlog₂, ← hlog₃, ← hlog₄, ← hlog₅]
    rfl

/-- What the variables of a setting are is all that its value depends on. -/
theorem value_congr {env env' : Environment} {setting : Setting}
    (henv : ∀ name ∈ setting.names, env name = env' name) :
    setting.value (load env).1 = setting.value (load env').1 := by
  obtain ⟨reports, hreads, -⟩ := load_reads env
  obtain ⟨reports', hreads', -⟩ := load_reads env'
  exact ((hreads setting).congr henv).unique (hreads' setting)

end Settings

end DeployService
