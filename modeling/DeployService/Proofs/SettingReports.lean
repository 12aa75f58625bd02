import DeployService.Proofs.SettingSources

/-!
# What is reported about the settings

Each report is about one variable, and so about one setting (`Report.IsAbout`). A setting that is
not what it is by default has come from a variable. There is exactly one report then, about this
variable, and a text that is no value is reported by exactly one warning. The exception is the
suffix of the product name, about which nothing is ever reported: so everything custom is reported
if and only if there is no suffix (`settings_reported`).
-/

namespace DeployService.Settings

/-- The report is about a variable of the setting. -/
def Report.IsAbout (setting : Setting) (report : Report) : Prop := report.name ∈ setting.names

instance (setting : Setting) (report : Report) : Decidable (report.IsAbout setting) :=
  inferInstanceAs (Decidable (_ ∈ _))

/-- The reports that are about a setting. -/
def about (setting : Setting) (reports : List Report) : List Report :=
  reports.filter (·.IsAbout setting)

/-- The reports about one setting among the reports about all settings in turn. -/
theorem about_flatMap {reports : Setting → List Report}
    (h : ∀ setting, ∀ report ∈ reports setting, report.IsAbout setting) (setting : Setting) :
    about setting (Setting.all.flatMap reports) = reports setting := by
  have hparts : ∀ other : Setting,
      (reports other).filter (·.IsAbout setting) =
        if other = setting then reports other else [] := by
    intro other
    split
    · next heq =>
      subst heq
      exact List.filter_eq_self.mpr fun report hr => decide_eq_true (h other report hr)
    · next hne =>
      refine List.filter_eq_nil_iff.mpr fun report hr habout => hne ?_
      exact Setting.eq_of_mem_names (h other report hr) (of_decide_eq_true habout)
  rw [about, List.filter_flatMap]
  simp only [hparts]
  cases setting <;> simp [Setting.all]

namespace Setting

variable {env : Environment} {setting : Setting} {v : setting.Value} {r : List Report}

theorem reports_eq (hne : setting ≠ .userAgentSuffix) (name raw : String) (v : setting.Value) :
    ∃ report, setting.reports name raw v = [report] ∧ report.name = name := by
  cases setting with
  | controllerUrl => exact ⟨_, rfl, rfl⟩
  | chunkSize => exact ⟨_, rfl, rfl⟩
  | chunksInSequence => exact ⟨_, rfl, rfl⟩
  | chunksInParallel => exact ⟨_, rfl, rfl⟩
  | hidesProgress => exact ⟨_, rfl, rfl⟩
  | userAgentSuffix => exact absurd rfl hne

theorem Reads.isAbout (h : Reads env setting v r) : ∀ report ∈ r, report.IsAbout setting := by
  intro report hreport
  cases h with
  | unset => cases hreport
  | @used name raw _ hs =>
    by_cases hsuffix : setting = .userAgentSuffix
    · subst hsuffix
      cases hreport
    · obtain ⟨report', heq, hname⟩ := reports_eq hsuffix name raw v
      rw [heq, List.mem_singleton] at hreport
      rw [hreport, Report.IsAbout, hname]
      exact hs.name_mem
  | refused hs =>
    rw [List.mem_singleton] at hreport
    rw [hreport]
    exact hs.name_mem

/-- Nothing is reported about the suffix: every text is one. -/
theorem Reads.suffix {v : Setting.userAgentSuffix.Value} (h : Reads env .userAgentSuffix v r) :
    r = [] := by
  cases h with
  | unset => rfl
  | used => rfl
  | refused _ hr => cases hr

/-- A custom value has come from a variable, and there is one report about it. -/
theorem Reads.custom (hne : setting ≠ .userAgentSuffix) (hv : v ≠ setting.default)
    (h : Reads env setting v r) :
    ∃ name raw report, IsSource env setting.names name raw ∧ report.name = name ∧
      r = [report] := by
  cases h with
  | unset => exact absurd rfl hv
  | @used name raw _ hs =>
    obtain ⟨report, heq, hname⟩ := reports_eq hne name raw v
    exact ⟨name, raw, report, hs, hname, heq⟩
  | refused => exact absurd rfl hv

end Setting

theorem eq_of_values {s t : Settings} (h : ∀ setting : Setting, setting.value s = setting.value t) :
    s = t := by
  have h₁ : s.controllerUrl = t.controllerUrl := h .controllerUrl
  have h₂ : s.chunkSize = t.chunkSize := h .chunkSize
  have h₃ : s.chunksInSequence = t.chunksInSequence := h .chunksInSequence
  have h₄ : s.chunksInParallel = t.chunksInParallel := h .chunksInParallel
  have h₅ : s.hidesProgress = t.hidesProgress := h .hidesProgress
  have h₆ : s.userAgentSuffix = t.userAgentSuffix := h .userAgentSuffix
  cases s
  cases t
  simp_all

/-- There is exactly one report about the setting, and it names the variable that the setting comes
from. -/
def ReportedOnce (env : Environment) (reports : List Report) (setting : Setting) : Prop :=
  ∃ name raw report, IsSource env setting.names name raw ∧ report.name = name ∧
    about setting reports = [report]

/-- The setting is not what it is by default. -/
def IsCustom (env : Environment) (setting : Setting) : Prop :=
  setting.value (load env).1 ≠ setting.default

/-- What is logged when the settings are loaded. -/
structure IsReported (env : Environment) (reports : List Report) : Prop where
  logged : (load env).2 = reports.map Report.entry
  custom : ∀ setting, setting ≠ .userAgentSuffix → IsCustom env setting →
    ReportedOnce env reports setting
  suffix : about .userAgentSuffix reports = []
  /-- A text that is no value leads to the default and to one warning. -/
  refused : ∀ setting name raw fault, IsSource env setting.names name raw →
    setting.read raw = .error fault →
      setting.value (load env).1 = setting.default ∧
        ∃ report, about setting reports = [report] ∧ report.name = name ∧
          report = .refused name raw fault setting.shownDefault ∧ report.entry.level = .warning
  silent : (∀ setting : Setting, ∀ name ∈ setting.names, ∀ value, ¬(env name).Gives value) →
    load env = (standard, [])

theorem exists_isReported (env : Environment) : ∃ reports, IsReported env reports := by
  obtain ⟨reports, hreads, hlog⟩ := load_reads env
  have habout : ∀ setting, about setting (Setting.all.flatMap reports) = reports setting :=
    about_flatMap fun setting => (hreads setting).isAbout
  refine ⟨Setting.all.flatMap reports, hlog, ?_, ?_, ?_, ?_⟩
  · intro setting hne hcustom
    obtain ⟨name, raw, report, hs, hname, heq⟩ := (hreads setting).custom hne hcustom
    exact ⟨name, raw, report, hs, hname, (habout setting).trans heq⟩
  · rw [habout]
    exact (hreads .userAgentSuffix).suffix
  · intro setting name raw fault hs hr
    obtain ⟨hdefault, heq⟩ := (hreads setting).source_error hs hr
    exact ⟨hdefault, _, (habout setting).trans heq, rfl, rfl, rfl⟩
  · intro hunset
    have hnone := fun setting => (hreads setting).source_none (hunset setting)
    have hsettings : (load env).1 = standard := eq_of_values fun setting => (hnone setting).1
    have hempty : (load env).2 = [] := by
      have hreports : Setting.all.flatMap reports = [] :=
        List.flatMap_eq_nil_iff.mpr fun setting _ => (hnone setting).2
      rw [hlog, hreports]
      rfl
    exact Prod.ext hsettings hempty

/-- **Every custom setting but the suffix is reported once.** All custom settings are reported if
and only if there is no suffix. -/
theorem settings_reported (env : Environment) :
    ∃ reports, IsReported env reports ∧
      ((∀ setting, IsCustom env setting → ReportedOnce env reports setting) ↔
        (load env).1.userAgentSuffix = none) := by
  obtain ⟨reports, hreported⟩ := exists_isReported env
  refine ⟨reports, hreported, ?_, ?_⟩
  · intro hall
    by_cases hnone : (load env).1.userAgentSuffix = none
    · exact hnone
    · obtain ⟨name, raw, report, -, -, heq⟩ := hall .userAgentSuffix hnone
      rw [hreported.suffix] at heq
      cases heq
  · intro hnone setting hcustom
    by_cases hsuffix : setting = .userAgentSuffix
    · subst hsuffix
      exact absurd hnone hcustom
    · exact hreported.custom setting hsuffix hcustom

/-- A suffix changes the product name, and nothing is logged about it. -/
theorem suffix_not_reported :
    let env : Environment := fun name =>
      if name = "MULTIAPPS_USER_AGENT_SUFFIX" then .text "ci" else .unset
    (load env).1.userAgentSuffix = some "ci" ∧ standard.userAgentSuffix = none ∧
      (load env).2 = [] := by
  decide +kernel

end DeployService.Settings
