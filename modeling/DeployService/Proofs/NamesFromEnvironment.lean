import DeployService.Proofs.SettingSources
import DeployService.Proofs.SuffixSanitizing

/-!
# The product name of an environment

A suffix from the environment is trimmed and may be taken for blank before it is sanitized. Blanks
leave nothing but spaces behind when a text is reduced (`reduced_blanks`), and these are trimmed
anyway, so that it makes no difference (`sanitize_usable?`): the product name is the one with the
text of the variable, as it stands there, for a suffix (`userAgent_of_environment`).
-/

namespace DeployService

open DeployService.Text

/-- The text that a variable is set to. -/
def Variable.text? : Variable → Option String
  | .text value => some value
  | .unset | .unreadable => none

namespace UserAgent

/-! ## Blanks around a suffix -/

theorem reduced_append (cs ds : List Char) : reduced (cs ++ ds) = reduced cs ++ reduced ds :=
  List.filterMap_append

/-- What is left of blanks is blank: a tab has become a space, and other characters stay or go. -/
theorem reduced_blanks {cs : List Char} (h : ∀ c ∈ cs, isBlank c = true) :
    ∀ c ∈ reduced cs, isBlank c = true := by
  intro c hc
  obtain ⟨d, hd, hkept⟩ := List.mem_filterMap.mp hc
  split at hkept
  · cases hkept
    rfl
  · split at hkept
    · cases hkept
      exact h _ hd
    · cases hkept

theorem trimChars_reduced (cs : List Char) :
    trimChars (reduced (trimChars cs)) = trimChars (reduced cs) := by
  obtain ⟨before, after, hb, ha, heq⟩ := eq_trimChars_between cs
  have hreduced : reduced cs = reduced before ++ reduced (trimChars cs) ++ reduced after := by
    rw [← reduced_append, ← reduced_append, ← heq]
  rw [hreduced, trimChars_around (reduced_blanks hb) (reduced_blanks ha)]

theorem sanitizeChars_trimChars (cs : List Char) :
    sanitizeChars (trimChars cs) = sanitizeChars cs := by
  simp only [sanitizeChars, safeChars_eq, trimChars_reduced]

theorem sanitize_trim (s : String) : sanitize (trim s) = sanitize s := by
  rw [sanitize, sanitize, trim, String.toList_ofList, sanitizeChars_trimChars]

theorem sanitize_blank {s : String} (h : isBlankText s = true) : sanitize s = "" := by
  have htrim : trim s = "" := by rw [trim, trimChars_of_blanks (List.all_eq_true.mp h)]
  rw [← sanitize_trim, htrim]
  rfl

theorem build_eq (suffix : Option String) (b : Build) :
    build suffix b = if (suffix.map sanitize).getD "" = "" then product b
      else product b ++ " " ++ (suffix.map sanitize).getD "" := by
  unfold build
  cases suffix.map sanitize with
  | none => rfl
  | some s => by_cases hs : s = "" <;> simp [hs]

/-- A suffix of which nothing is left is as good as none. -/
theorem build_congr {suffix suffix' : Option String} {b : Build}
    (h : (suffix.map sanitize).getD "" = (suffix'.map sanitize).getD "") :
    build suffix b = build suffix' b := by
  rw [build_eq, build_eq, h]

end UserAgent

namespace Settings

/-! ## The suffix variable -/

theorem userAgentSuffix_eq (env : Environment) :
    (load env).1.userAgentSuffix = usable? (env suffixVariable) := by
  have hfind : (load env).1.userAgentSuffix = (find? env [suffixVariable]).map (·.2) := rfl
  rw [hfind, find?]
  cases usable? (env suffixVariable) <;> rfl

/-- Trimming a text, or taking it for blank, changes nothing about what is left of it. -/
theorem sanitize_usable? (v : Variable) :
    ((usable? v).map UserAgent.sanitize).getD "" = (v.text?.map UserAgent.sanitize).getD "" := by
  cases v with
  | unset => rfl
  | unreadable => rfl
  | text value =>
    rw [usable?]
    split
    · next hblank => exact (UserAgent.sanitize_blank hblank).symm
    · exact UserAgent.sanitize_trim value

/-- **The environment is one more way to give a suffix.** Whatever the variables are, and in every
build, the product name is the one with the text of the suffix variable for a suffix, and without
such a text the plain one. A suffix is neither changed nor dropped nor added because the text is
trimmed and may be taken for blank before. -/
theorem userAgent_of_environment (env : Environment) (b : UserAgent.Build) :
    (load env).1.userAgent b = UserAgent.build (env suffixVariable).text? b ∧
      ∀ value, ((usable? (.text value)).map UserAgent.sanitize).getD "" =
        UserAgent.sanitize value := by
  refine ⟨UserAgent.build_congr ?_, fun value => sanitize_usable? (.text value)⟩
  rw [userAgentSuffix_eq]
  exact sanitize_usable? (env suffixVariable)

example :
    let env : Environment := fun name =>
      if name = suffixVariable then .text "\u00A0\u3000ci\t\u000Bbuild\r\n \u2028" else .unset
    (load env).1.userAgentSuffix = some "ci\t\u000Bbuild" ∧
      (load env).1.userAgent = UserAgent.product ++ " ci build" := by
  decide +kernel

end Settings

end DeployService
