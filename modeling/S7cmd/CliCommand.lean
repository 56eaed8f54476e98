import Mathlib.Data.List.Forall2
import S7cmd.Foundation.Keyed
import S7cmd.Text

/-!
# The parser of the command line

The arguments of most subcommands are declared by other libraries. Before the parser is used,
each subcommand loses its own flag for completions, and its help no longer shows what the
environment holds of a credential.
-/

namespace S7cmd

open Foundation

variable {Rest : Type}

/-! ## Commands -/

/-- An argument, with what is changed of it here and the rest of it. -/
structure CliArg (Rest : Type) where
  id : Text
  long : Option Text
  /-- the environment variable that it is read from by default -/
  env : Option Text
  hide : Bool
  hideEnvValues : Bool
  rest : Rest
  deriving DecidableEq, Repr

structure CliSubcommand (Rest : Type) where
  name : Text
  args : List (CliArg Rest)
  /-- its own subcommands are not looked at -/
  rest : Rest
  deriving DecidableEq, Repr

structure CliCommand (Rest : Type) where
  args : List (CliArg Rest)
  subcommands : List (CliSubcommand Rest)
  maxTermWidth : Option Nat
  rest : Rest
  deriving DecidableEq, Repr

/-- How the parser library changes a part of a command; without an answer it panics. -/
structure Clap (Rest : Type) where
  mutArg : Text → (CliArg Rest → Option (CliArg Rest)) → List (CliArg Rest) →
    Option (List (CliArg Rest))
  mutSubcommand : Text → (CliSubcommand Rest → Option (CliSubcommand Rest)) →
    List (CliSubcommand Rest) → Option (List (CliSubcommand Rest))

structure Clap.Lawful (clap : Clap Rest) : Prop where
  mutArg : Mutates CliArg.id clap.mutArg
  mutSubcommand : Mutates CliSubcommand.name clap.mutSubcommand

/-! ## The changes -/

def autoCompleteShell : Text := "auto_complete_shell".toList

def CliArg.isCredential (arg : CliArg Rest) : Bool :=
  "access_key".toList <:+: arg.id || "session_token".toList <:+: arg.id ||
    "sse_c_key".toList <:+: arg.id

/-- Whether the value of an environment variable is shown that is none to show. -/
def CliArg.isSensitive (arg : CliArg Rest) : Bool := arg.isCredential && arg.env.isSome

def CliArg.cleared (arg : CliArg Rest) : CliArg Rest :=
  { arg with hide := true, long := none, env := none }

def CliArg.concealed (arg : CliArg Rest) : CliArg Rest := { arg with hideEnvValues := true }

def hideCredentialEnvValues (clap : Clap Rest) (sub : CliSubcommand Rest) :
    Option (CliSubcommand Rest) := do
  let sensitiveIds := (sub.args.filter CliArg.isSensitive).map CliArg.id
  let args ← mutateAll clap.mutArg (some ∘ CliArg.concealed) sensitiveIds sub.args
  return { sub with args }

/-- The flag for completions stays, where there is one, but cannot be given. -/
def clearAutoCompleteShell (clap : Clap Rest) (args : List (CliArg Rest)) :
    Option (List (CliArg Rest)) :=
  let hasFlag := args.any fun arg => arg.id = autoCompleteShell
  if hasFlag then clap.mutArg autoCompleteShell (some ∘ CliArg.cleared) args else some args

/-- What `build_cli_command` does to one subcommand. -/
def adaptSubcommand (clap : Clap Rest) (sub : CliSubcommand Rest) :
    Option (CliSubcommand Rest) := do
  let args ← clearAutoCompleteShell clap sub.args
  hideCredentialEnvValues clap { sub with args }

def buildCliCommand (clap : Clap Rest) (cli : CliCommand Rest) : Option (CliCommand Rest) := do
  let names := cli.subcommands.map CliSubcommand.name
  let subcommands ← mutateAll clap.mutSubcommand (adaptSubcommand clap) names cli.subcommands
  return { cli with subcommands, maxTermWidth := some 100 }

/-! ## What becomes of an argument -/

/-- An argument of a subcommand, as the parser is used. -/
def CliArg.adapted (arg : CliArg Rest) : CliArg Rest :=
  if arg.id = autoCompleteShell then arg.cleared
  else if arg.isSensitive then arg.concealed
  else arg

/-- An argument whose help gives nothing away. -/
structure CliArg.Discreet (arg : CliArg Rest) : Prop where
  credential : arg.isCredential = true → arg.env.isSome = true → arg.hideEnvValues = true
  completion : arg.id = autoCompleteShell → arg.hide = true ∧ arg.long = none ∧ arg.env = none

theorem CliArg.adapted_discreet (arg : CliArg Rest) : arg.adapted.Discreet := by
  unfold adapted
  split
  next hcompletion => exact ⟨fun _ henv => (Bool.false_ne_true henv).elim, fun _ => ⟨rfl, rfl, rfl⟩⟩
  next hother =>
    split
    next hsensitive => exact ⟨fun _ _ => rfl, fun hcompletion => absurd hcompletion hother⟩
    next hplain =>
      refine ⟨fun hcredential henv => ?_, fun hcompletion => absurd hcompletion hother⟩
      exact absurd (Bool.and_eq_true_iff.mpr ⟨hcredential, henv⟩) hplain

/-- A subcommand, and what it has become: every argument is adapted, and none is lost. -/
structure Adapted (sub after : CliSubcommand Rest) : Prop where
  name : after.name = sub.name
  rest : after.rest = sub.rest
  args : after.args.Perm (sub.args.map CliArg.adapted)

variable {clap : Clap Rest} {sub : CliSubcommand Rest}

theorem exists_cleared (hclap : clap.Lawful) {args : List (CliArg Rest)}
    (hunique : (args.map CliArg.id).Nodup) :
    ∃ after, clearAutoCompleteShell clap args = some after ∧
      after.Perm (args.map fun arg => if arg.id = autoCompleteShell then arg.cleared else arg) := by
  unfold clearAutoCompleteShell
  dsimp only
  split
  next hflag =>
    have hnamed : ∀ name ∈ [autoCompleteShell], name ∈ args.map CliArg.id := by
      intro name hname
      obtain rfl := List.mem_singleton.mp hname
      obtain ⟨arg, harg, hid⟩ := List.any_eq_true.mp hflag
      exact List.mem_map.mpr ⟨arg, harg, of_decide_eq_true hid⟩
    obtain ⟨after, hafter, hperm⟩ := hclap.mutArg.mutateAll_perm
      (fun arg (_ : arg ∈ args) _ => (rfl : (some ∘ CliArg.cleared) arg = some arg.cleared))
      (fun _ => rfl) hunique (List.nodup_singleton autoCompleteShell) hnamed
    refine ⟨after, ?_, by simpa only [List.mem_singleton] using hperm⟩
    simpa only [mutateAll, List.foldlM_cons, List.foldlM_nil, bind_pure] using hafter
  next hnone =>
    refine ⟨args, rfl, List.Perm.of_eq ?_⟩
    have hid : ∀ arg ∈ args, (if arg.id = autoCompleteShell then arg.cleared else arg) = arg := by
      intro arg harg
      apply if_neg
      intro hid
      exact hnone (List.any_eq_true.mpr ⟨arg, harg, decide_eq_true hid⟩)
    rw [List.map_congr_left hid, List.map_id']

theorem exists_adapted (hclap : clap.Lawful) (hunique : (sub.args.map CliArg.id).Nodup) :
    ∃ after, adaptSubcommand clap sub = some after ∧ Adapted sub after := by
  obtain ⟨middle, hmiddle, hcleared⟩ := exists_cleared hclap hunique
  have hids : (middle.map CliArg.id).Perm (sub.args.map CliArg.id) := by
    refine (hcleared.map CliArg.id).trans (List.Perm.of_eq ?_)
    rw [List.map_map]
    apply List.map_congr_left
    intro arg _
    simp only [Function.comp]
    split <;> rfl
  obtain ⟨args, hargs, hconcealed⟩ := hclap.mutArg.mutateAll_filter_perm CliArg.isSensitive
    (fun arg (_ : arg ∈ middle) => (rfl : (some ∘ CliArg.concealed) arg = some arg.concealed))
    (fun _ => rfl) (hids.nodup_iff.mpr hunique)
  refine ⟨{ sub with args }, ?_, rfl, rfl, ?_⟩
  · simp only [adaptSubcommand, hmiddle, hideCredentialEnvValues, hargs, Option.bind_eq_bind,
      Option.bind_some]
    rfl
  · refine hconcealed.trans ((hcleared.map _).trans (List.Perm.of_eq ?_))
    rw [List.map_map]
    apply List.map_congr_left
    intro arg _
    simp only [Function.comp, CliArg.adapted]
    split
    next =>
      have hcleared : arg.cleared.isSensitive = false := by
        simp [CliArg.isSensitive, CliArg.cleared]
      simp only [hcleared, Bool.false_eq_true, if_false]
    next => rfl

theorem adaptSubcommand_name {after : CliSubcommand Rest}
    (hafter : adaptSubcommand clap sub = some after) : after.name = sub.name := by
  simp only [adaptSubcommand, hideCredentialEnvValues, Option.bind_eq_bind,
    Option.bind_eq_some_iff] at hafter
  obtain ⟨_, _, _, _, hafter⟩ := hafter
  cases hafter
  rfl

/-! ## The whole parser -/

/-- What a subcommand becomes. -/
def adapt (clap : Clap Rest) (sub : CliSubcommand Rest) : CliSubcommand Rest :=
  (adaptSubcommand clap sub).getD sub

theorem adapt_name (clap : Clap Rest) (sub : CliSubcommand Rest) :
    (adapt clap sub).name = sub.name := by
  unfold adapt
  cases hafter : adaptSubcommand clap sub with
  | none => rfl
  | some after => exact adaptSubcommand_name hafter

theorem adaptSubcommand_eq (hclap : clap.Lawful) (hunique : (sub.args.map CliArg.id).Nodup) :
    adaptSubcommand clap sub = some (adapt clap sub) ∧ Adapted sub (adapt clap sub) := by
  obtain ⟨after, hafter, hadapted⟩ := exists_adapted hclap hunique
  unfold adapt
  rw [hafter]
  exact ⟨rfl, hadapted⟩

theorem Adapted.discreet {after : CliSubcommand Rest} (hadapted : Adapted sub after) :
    ∀ arg ∈ after.args, arg.Discreet := by
  intro arg harg
  obtain ⟨before, -, rfl⟩ := List.mem_map.mp (hadapted.args.mem_iff.mp harg)
  exact before.adapted_discreet

/-- Whatever the libraries declare, and however the parser library reorders what it changes:
the parser is built, the help of no subcommand shows what the environment holds of a
credential, no subcommand has a flag for completions or takes one from the environment, and
nothing else about a command has changed. -/
theorem buildCliCommand_discreet (hclap : clap.Lawful) (cli : CliCommand Rest)
    (hnames : (cli.subcommands.map CliSubcommand.name).Nodup)
    (hids : ∀ sub ∈ cli.subcommands, (sub.args.map CliArg.id).Nodup) :
    ∃ built, buildCliCommand clap cli = some built ∧
      built.args = cli.args ∧ built.rest = cli.rest ∧
      (∃ adapted, List.Forall₂ Adapted cli.subcommands adapted ∧
        built.subcommands.Perm adapted) ∧
      ∀ sub ∈ built.subcommands, ∀ arg ∈ sub.args, arg.Discreet := by
  have hadapted : ∀ sub ∈ cli.subcommands, Adapted sub (adapt clap sub) :=
    fun sub hsub => (adaptSubcommand_eq hclap (hids sub hsub)).2
  obtain ⟨subcommands, hsubcommands, hperm⟩ := hclap.mutSubcommand.mutateAll_map_perm
    (fun sub hsub => (adaptSubcommand_eq hclap (hids sub hsub)).1) (adapt_name clap) hnames
  refine ⟨{ cli with subcommands, maxTermWidth := some 100 }, ?_, rfl, rfl, ?_, ?_⟩
  · simp only [buildCliCommand, hsubcommands, Option.bind_eq_bind, Option.bind_some]
    rfl
  · refine ⟨cli.subcommands.map (adapt clap), ?_, hperm⟩
    exact List.forall₂_map_right_iff.mpr (List.forall₂_same.mpr hadapted)
  · intro sub hsub
    obtain ⟨before, hbefore, rfl⟩ := List.mem_map.mp (hperm.mem_iff.mp hsub)
    exact (hadapted before hbefore).discreet

/-- A library that puts what it has changed behind the rest. -/
def movingClap : Clap Unit where
  mutArg := moveToEnd CliArg.id
  mutSubcommand := moveToEnd CliSubcommand.name

/-- Two commands; the help of one would show the secret, and both have the flag. -/
def leakingCli : CliCommand Unit where
  args := []
  subcommands :=
    [⟨"cp".toList, [⟨"source_secret_access_key".toList, some "source-secret-access-key".toList,
        some "SOURCE_SECRET_ACCESS_KEY".toList, false, false, ()⟩,
      ⟨autoCompleteShell, some "auto-complete-shell".toList, some "AUTO_COMPLETE_SHELL".toList,
        false, false, ()⟩], ()⟩,
      ⟨"head-bucket".toList, [⟨autoCompleteShell, some "auto-complete-shell".toList,
        some "AUTO_COMPLETE_SHELL".toList, false, false, ()⟩], ()⟩]
  maxTermWidth := none
  rest := ()

theorem buildCliCommand_discreet_leaking :
    ∃ built, buildCliCommand movingClap leakingCli = some built ∧
      ∀ sub ∈ built.subcommands, ∀ arg ∈ sub.args, arg.Discreet := by
  obtain ⟨built, hbuilt, -, -, -, hdiscreet⟩ := @buildCliCommand_discreet Unit movingClap
    ⟨mutates_moveToEnd _, mutates_moveToEnd _⟩ leakingCli (by decide) (by decide)
  exact ⟨built, hbuilt, hdiscreet⟩

end S7cmd
