import PagedResults.CommandLine.Client

/-! # Options without a value

What is read of a command line does not depend on the options without a value that stand in front of it, as long
as none of them is repeated. So such an option in front of a command line adds itself to the arguments and changes
nothing else.
-/

namespace PagedResults.CommandLine

/-- The arguments with an option without a value in front of the others. -/
def Arguments.flagged (name : String) (arguments : Arguments) : Arguments :=
  { arguments with flags := arguments.flags ++ [name] }

private theorem Arguments.hasFlag_flagged (name other : String) (arguments : Arguments) :
    (arguments.flagged name).hasFlag other = (arguments.hasFlag other || other == name) := by
  rw [hasFlag, hasFlag, flagged, List.contains_append, List.contains_cons, List.contains_nil, Bool.or_false]

namespace Grammar

variable {grammar : Grammar} {name other argument value : String} {arguments next result : Arguments}
  {rest : List String}

/-! ## One argument -/

private theorem operand_flagged : grammar.operand argument (arguments.flagged name) =
    (grammar.operand argument arguments).map (·.flagged name) := by
  rw [operand, operand, Arguments.flagged]
  dsimp only
  split
  · split <;> rfl
  · rfl

private theorem setting_flagged : grammar.setting name value (arguments.flagged other) =
    (grammar.setting name value arguments).map (·.flagged other) := by
  rw [setting, setting]
  split
  · have same : (arguments.flagged other).setting? name = arguments.setting? name := rfl
    rw [same]
    split <;> rfl
  · rfl

private theorem flag_flagged (differs : other ≠ name) : grammar.flag other (arguments.flagged name) =
    (grammar.flag other arguments).map (·.flagged name) := by
  rw [flag, flag, Arguments.hasFlag_flagged, beq_eq_false_iff_ne.mpr differs, Bool.or_false]
  split
  · rfl
  · split
    · rfl
    · split <;> rfl

private theorem operand_flags (took : grammar.operand argument arguments = .ok next) : next.flags = arguments.flags := by
  rw [operand] at took
  split at took
  · split at took
    · obtain rfl := Except.ok.inj took
      rfl
    · cases took
  · cases took

private theorem setting_flags (took : grammar.setting name value arguments = .ok next) : next.flags = arguments.flags := by
  rw [setting] at took
  split at took
  · split at took
    · obtain rfl := Except.ok.inj took
      rfl
    · cases took
  · cases took

private theorem flag_flags (took : grammar.flag name arguments = .ok next) : next.flags = name :: arguments.flags := by
  rw [flag] at took
  split at took
  · cases took
  · split at took
    · cases took
    · split at took
      · obtain rfl := Except.ok.inj took
        rfl
      · cases took

/-! ## All arguments -/

/-- What is read in two steps is read in each of them. -/
theorem bind_eq_ok {α β : Type} {first : Except Stop α} {later : α → Except Stop β} {last : β}
    (reads : (first >>= later) = .ok last) : ∃ next, first = .ok next ∧ later next = .ok last := by
  cases first with
  | ok next => exact ⟨next, rfl, reads⟩
  | error stop => cases reads

private theorem finish_eq_ok (reads : grammar.finish arguments = .ok result) :
    arguments.operands.length = grammar.operands.length ∧ result = arguments := by
  rw [finish] at reads
  split at reads
  · next complete => exact ⟨complete, (Except.ok.inj reads).symm⟩
  · cases reads

private theorem readOperands_flags (reads : grammar.readOperands rest arguments = .ok result) :
    result.flags = arguments.flags := by
  induction rest generalizing arguments with
  | nil =>
    rw [readOperands] at reads
    rw [(finish_eq_ok reads).2]
  | cons argument rest ih =>
    rw [readOperands] at reads
    obtain ⟨next, took, reads⟩ := bind_eq_ok reads
    exact (ih reads).trans (operand_flags took)

/-- Whatever is read, options are only added. -/
theorem readFrom_flags (reads : grammar.readFrom rest arguments = .ok result) :
    arguments.flags <:+ result.flags := by
  fun_induction readFrom grammar rest arguments with
  | case1 => exact (finish_eq_ok reads).2 ▸ List.suffix_refl _
  | case2 => exact readOperands_flags reads ▸ List.suffix_refl _
  | case3 argument rest arguments body _ _ name value _ ih
  | case5 argument arguments body _ _ name _ _ value rest _ ih =>
    obtain ⟨next, took, reads⟩ := bind_eq_ok reads
    exact setting_flags took ▸ ih next reads
  | case7 argument rest arguments body _ _ name _ _ ih =>
    obtain ⟨next, took, reads⟩ := bind_eq_ok reads
    have behind := ih next reads
    rw [flag_flags took] at behind
    exact (List.suffix_cons ..).trans behind
  | case11 argument rest arguments _ _ _ _ _ ih =>
    obtain ⟨next, took, reads⟩ := bind_eq_ok reads
    exact operand_flags took ▸ ih next reads
  | case4 | case6 | case8 | case9 | case10 => cases reads

private theorem finish_flagged (reads : grammar.finish arguments = .ok result) :
    grammar.finish (arguments.flagged name) = .ok (result.flagged name) := by
  obtain ⟨complete, rfl⟩ := finish_eq_ok reads
  exact if_pos complete

private theorem readOperands_flagged (reads : grammar.readOperands rest arguments = .ok result) :
    grammar.readOperands rest (arguments.flagged name) = .ok (result.flagged name) := by
  induction rest generalizing arguments with
  | nil =>
    rw [readOperands] at reads ⊢
    exact finish_flagged reads
  | cons argument rest ih =>
    rw [readOperands] at reads ⊢
    obtain ⟨next, took, reads⟩ := bind_eq_ok reads
    rw [operand_flagged, took]
    exact ih reads

/-- An option in front that is not repeated adds itself, and nothing else changes. The induction is on the way in
which the arguments are read without it. -/
theorem readFrom_flagged (reads : grammar.readFrom rest arguments = .ok result)
    (absent : result.hasFlag name = false) :
    grammar.readFrom rest (arguments.flagged name) = .ok (result.flagged name) := by
  fun_induction readFrom grammar rest arguments with
  | case1 arguments =>
    rw [readFrom]
    exact finish_flagged reads
  | case2 argument rest arguments shape =>
    simp only [readFrom, shape]
    exact readOperands_flagged reads
  | case3 argument rest arguments body proper shape other value split ih =>
    obtain ⟨next, took, reads⟩ := bind_eq_ok reads
    simp only [readFrom, shape, split]
    rw [setting_flagged, took]
    exact ih next reads
  | case5 argument arguments body proper shape other split takes value rest plain ih =>
    obtain ⟨next, took, reads⟩ := bind_eq_ok reads
    simp only [readFrom, shape, split, takes, plain]
    rw [setting_flagged, took]
    exact ih next reads
  | case7 argument rest arguments body proper shape other split bare ih =>
    obtain ⟨next, took, reads⟩ := bind_eq_ok reads
    have differs : other ≠ name := by
      rintro rfl
      have added := (readFrom_flags reads).subset (flag_flags took ▸ List.mem_cons_self ..)
      rw [Arguments.hasFlag, List.contains_eq_mem, decide_eq_false_iff_not] at absent
      exact absent added
    simp only [readFrom, shape, split, bare]
    rw [flag_flagged differs, took]
    exact ih next reads
  | case11 argument rest arguments bare long help version short ih =>
    obtain ⟨next, took, reads⟩ := bind_eq_ok reads
    rw [readFrom]
    -- the argument has none of the shapes that are read before operands
    split
    · next shape => exact absurd shape bare
    · next shape => exact absurd shape (long _)
    · next shape => exact absurd shape (help _)
    · next shape => exact absurd shape (version _)
    · next shape => exact absurd shape (short _ _)
    · rw [operand_flagged, took]
      exact ih next reads
  | case4 | case6 | case8 | case9 | case10 => cases reads

end Grammar

/-- With the option to list a result from its end in front of it, a command line asks for the same in the other
direction. -/
theorem Client.Job.ofArguments_reverse {arguments : List String} {job : Job}
    (asks : Job.ofArguments arguments = .ok job) (ahead : job.reverse = false) :
    Job.ofArguments ("--reverse" :: arguments) = .ok { job with reverse := true } := by
  obtain ⟨result, reads, asks⟩ := Grammar.bind_eq_ok asks
  have front : grammar.read ("--reverse" :: arguments) =
      grammar.readFrom arguments (({} : Arguments).flagged "reverse") := by
    have shape : "--reverse".toList = ['-', '-', 'r', 'e', 'v', 'e', 'r', 's', 'e'] := by decide +kernel
    have split : splitOption ['r', 'e', 'v', 'e', 'r', 's', 'e'] = ("reverse", none) := by decide +kernel
    have bare : (grammar.settings.lookup "reverse").isSome = false := by decide +kernel
    have taken : grammar.flag "reverse" {} = .ok (({} : Arguments).flagged "reverse") := by
      rw [Grammar.flag, if_neg (by decide), if_neg (by decide), if_pos (by decide)]
      rfl
    rw [Grammar.read, Grammar.readFrom, shape]
    simp only [split, bare]
    rw [if_neg Bool.false_ne_true, taken]
    rfl
  split at asks
  · next address sql operands =>
    split at asks
    · next found =>
      obtain rfl := Except.ok.inj asks
      have flagged := Grammar.readFrom_flagged reads ahead
      rw [ofArguments, front, flagged]
      have same : (result.flagged "reverse").operands = [address, sql] := operands
      have given : (result.flagged "reverse").hasFlag "reverse" = true := by
        rw [Arguments.hasFlag_flagged, beq_self_eq_true, Bool.or_true]
      simp only [bind, Except.bind, same, found, given]
      rfl
    · cases asks
  · cases asks

end PagedResults.CommandLine
