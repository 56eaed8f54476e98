import S7cmd.BatchRun.Outcome

/-!
# The exit code of a batch

Folding `worse_of` picks the first code of maximal severity, which is
`List.argmax`. Codes ranked 2 and above are alone in their rank, so the fold
over them ignores the order of the list; the other non-zero codes share rank 1
and there the first one recorded wins.
-/

namespace S7cmd.BatchRun

/-- The fold of a run that recorded these codes in this order. -/
def worstOf (codes : List ExitCode) : ExitCode := codes.foldl worseOf 0

theorem worstOf_append (codes : List ExitCode) (code : ExitCode) :
    worstOf (codes ++ [code]) = worseOf (worstOf codes) code := by
  simp only [worstOf, List.foldl_append, List.foldl_cons, List.foldl_nil]

theorem severityRank_zero : severityRank 0 = 0 := rfl

theorem severityRank_eq_zero_iff (code : ExitCode) : severityRank code = 0 ↔ code = 0 := by
  unfold severityRank
  split <;> simp_all

/-- Only rank 1 is shared by several codes. -/
theorem severityRank_injective {first second : ExitCode}
    (hsame : severityRank first = severityRank second) (hrank : severityRank first ≠ 1) :
    first = second := by
  unfold severityRank at hsame hrank
  split at hsame <;> split at hsame <;> simp_all

theorem argmax_worstOf (codes : List ExitCode) :
    (0 :: codes).argmax severityRank = some (worstOf codes) := by
  induction codes using List.reverseRecOn with
  | nil => rfl
  | append_singleton codes code ih =>
      rw [← List.cons_append, List.argmax_concat, ih, worstOf_append]
      simp only [worseOf]
      split <;> rfl

theorem worstOf_mem (codes : List ExitCode) : worstOf codes ∈ 0 :: codes :=
  List.argmax_mem (argmax_worstOf codes)

/-- No recorded code is more severe than the exit code. -/
theorem severityRank_le_worstOf {codes : List ExitCode} {code : ExitCode} (hcode : code ∈ codes) :
    severityRank code ≤ severityRank (worstOf codes) :=
  List.le_of_mem_argmax (List.mem_cons_of_mem 0 hcode) (argmax_worstOf codes)

/-- The exit code is zero exactly when every recorded code is. -/
theorem worstOf_eq_zero_iff (codes : List ExitCode) :
    worstOf codes = 0 ↔ ∀ code ∈ codes, code = 0 := by
  constructor
  · intro hworst code hcode
    have hrank := severityRank_le_worstOf hcode
    rw [hworst, severityRank_zero] at hrank
    exact (severityRank_eq_zero_iff code).mp (Nat.le_zero.mp hrank)
  · intro hall
    rcases List.mem_cons.mp (worstOf_mem codes) with hzero | hmem
    · exact hzero
    · exact hall _ hmem

/-- Unless the list records nothing but zeros, the exit code is a recorded one;
if it does, the exit code is zero. -/
theorem worstOf_mem_of_ne_nil {codes : List ExitCode} (hcodes : codes ≠ []) :
    worstOf codes ∈ codes := by
  rcases List.mem_cons.mp (worstOf_mem codes) with hzero | hmem
  · obtain ⟨code, hcode⟩ := List.exists_mem_of_ne_nil codes hcodes
    have hall := (worstOf_eq_zero_iff codes).mp hzero
    rw [hzero, ← hall code hcode]
    exact hcode
  · exact hmem

/-- The severity of the exit code does not depend on the recording order. -/
theorem severityRank_worstOf_perm {first second : List ExitCode} (hperm : first.Perm second) :
    severityRank (worstOf first) = severityRank (worstOf second) := by
  have hle : ∀ {codes others : List ExitCode}, codes.Perm others →
      severityRank (worstOf codes) ≤ severityRank (worstOf others) := by
    intro codes others hcodes
    rcases List.mem_cons.mp (worstOf_mem codes) with hzero | hmem
    · rw [hzero, severityRank_zero]
      exact Nat.zero_le _
    · exact severityRank_le_worstOf (hcodes.mem_iff.mp hmem)
  exact Nat.le_antisymm (hle hperm) (hle hperm.symm)

/-- The codes that share severity rank 1. -/
def RankOneAgree (codes : List ExitCode) : Prop :=
  ∀ first ∈ codes, ∀ second ∈ codes,
    severityRank first = 1 → severityRank second = 1 → first = second

/-- When something more severe than rank 1 was recorded, or all codes of rank 1
are one and the same, the exit code itself is independent of the order. -/
theorem worstOf_perm {first second : List ExitCode} (hperm : first.Perm second)
    (hties : severityRank (worstOf first) ≠ 1 ∨ RankOneAgree first) :
    worstOf first = worstOf second := by
  have hrank := severityRank_worstOf_perm hperm
  by_cases hone : severityRank (worstOf first) = 1
  · have hagree := hties.resolve_left (fun hne => hne hone)
    have hmem : ∀ {codes : List ExitCode}, severityRank (worstOf codes) = 1 →
        worstOf codes ∈ codes := by
      intro codes hcodes
      apply (List.mem_cons.mp (worstOf_mem codes)).resolve_left
      intro hzero
      rw [hzero, severityRank_zero] at hcodes
      exact Nat.zero_ne_one hcodes
    exact hagree _ (hmem hone) _ (hperm.mem_iff.mpr (hmem (hrank ▸ hone))) hone (hrank ▸ hone)
  · exact severityRank_injective hrank hone

end S7cmd.BatchRun
