/-
This file is about the matches of a symbol with the run of letters after it.

The letters of a text are word letters or others, and a match is the symbol with the longest run of
letters of one kind that follows. The search for the next match begins where the last one has
ended, so that a symbol inside of a run that was matched is passed over. Which runs are found can
be told without the search: a symbol begins a match if between it and every symbol before there is
a word letter, and the runs of a text are then those before the symbol, its own, and those after.
-/

import Mathlib.Data.List.TakeWhile

namespace Matches

universe u

variable {Letter : Type u}

section Search

variable (isWord : Letter → Bool)

/-- The longest run of letters of one kind at the start of a text, and what follows it. -/
def firstRun : List Letter → List Letter × List Letter
  | [] => ([], [])
  | first :: rest =>
      (first :: rest.takeWhile fun letter => isWord letter == isWord first,
        rest.dropWhile fun letter => isWord letter == isWord first)

variable [DecidableEq Letter] (symbol : Letter)

/-- The run of the next match, and what follows it. At the end of the text nothing follows the
symbol. -/
def find : List Letter → Option (List Letter × List Letter)
  | [] => none
  | first :: rest => if first = symbol ∧ rest ≠ [] then some (firstRun isWord rest) else find rest

/-- The runs of that many matches at most. -/
def findAll : Nat → List Letter → List (List Letter)
  | 0, _ => []
  | fuel + 1, text =>
      match find isWord symbol text with
      | none => []
      | some (run, rest) => run :: findAll fuel rest

/-- The runs of all matches. -/
def runs (text : List Letter) : List (List Letter) :=
  findAll isWord symbol text.length text

end Search

/-! ### One match -/

/-- The run is the longest one of letters of one kind in front of what follows. -/
structure IsRun (isWord : Letter → Bool) (run rest : List Letter) : Prop where
  nonempty : run ≠ []
  longest : ∃ kind, (∀ letter ∈ run, isWord letter = kind) ∧
    ∀ letter ∈ rest.head?, isWord letter ≠ kind

section OneMatch

variable {isWord : Letter → Bool} {text run rest before : List Letter}

theorem isRun_firstRun (isWord : Letter → Bool) (nonempty : text ≠ []) :
    text = (firstRun isWord text).1 ++ (firstRun isWord text).2 ∧
      IsRun isWord (firstRun isWord text).1 (firstRun isWord text).2 := by
  cases text with
  | nil => exact absurd rfl nonempty
  | cons first rest =>
      refine ⟨?_, List.cons_ne_nil _ _, isWord first, fun letter member => ?_,
        fun letter isHead => ?_⟩
      · exact congrArg (first :: ·) List.takeWhile_append_dropWhile.symm
      · rcases List.mem_cons.mp member with rfl | taken
        · rfl
        · have sameKind := List.mem_takeWhile_imp taken
          exact beq_iff_eq.mp sameKind
      · intro same
        have isDropped : (rest.dropWhile fun letter => isWord letter == isWord first).head? =
            some letter := isHead
        have stops := List.head?_dropWhile_not (fun letter => isWord letter == isWord first) rest
        rw [isDropped] at stops
        exact ne_of_beq_false stops same

theorem firstRun_append (isRun : IsRun isWord run rest) :
    firstRun isWord (run ++ rest) = (run, rest) := by
  obtain ⟨nonempty, kind, same, ends⟩ := isRun
  cases run with
  | nil => exact absurd rfl nonempty
  | cons first others =>
      have isKind : isWord first = kind := same first List.mem_cons_self
      have taken : ∀ letter ∈ others, (isWord letter == isWord first) = true := by
        intro letter member
        rw [same letter (List.mem_cons_of_mem _ member), isKind]
        exact beq_self_eq_true kind
      have stops : rest.takeWhile (fun letter => isWord letter == isWord first) = [] ∧
          rest.dropWhile (fun letter => isWord letter == isWord first) = rest := by
        cases rest with
        | nil => exact ⟨rfl, rfl⟩
        | cons next others =>
            have differs : ¬ (isWord next == isWord first) = true := by
              rw [isKind, beq_iff_eq]
              exact ends next rfl
            exact ⟨List.takeWhile_cons_of_neg differs, List.dropWhile_cons_of_neg differs⟩
      rw [List.cons_append, firstRun, List.takeWhile_append_of_pos taken,
        List.dropWhile_append_of_pos taken, stops.1, stops.2, List.append_nil]

variable [DecidableEq Letter] {symbol : Letter}

theorem find_eq_none (absent : symbol ∉ text) : find isWord symbol text = none := by
  induction text with
  | nil => rfl
  | cons first rest inductionHypothesis =>
      rw [List.mem_cons, not_or] at absent
      rw [find, if_neg fun both => absent.1 both.1.symm]
      exact inductionHypothesis absent.2

/-- A match is found at the first symbol that something follows. -/
theorem find_append (absent : symbol ∉ before) (isRun : IsRun isWord run rest) :
    find isWord symbol (before ++ symbol :: (run ++ rest)) = some (run, rest) := by
  induction before with
  | nil =>
      have follows : run ++ rest ≠ [] := List.append_ne_nil_of_left_ne_nil isRun.nonempty rest
      rw [List.nil_append, find, if_pos ⟨rfl, follows⟩, firstRun_append isRun]
  | cons first others inductionHypothesis =>
      rw [List.mem_cons, not_or] at absent
      rw [List.cons_append, find, if_neg fun both => absent.1 both.1.symm]
      exact inductionHypothesis absent.2

theorem find_eq_some (found : find isWord symbol text = some (run, rest)) :
    ∃ before, text = before ++ symbol :: (run ++ rest) ∧ symbol ∉ before ∧
      IsRun isWord run rest := by
  induction text with
  | nil => cases found
  | cons first others inductionHypothesis =>
      rw [find] at found
      split at found
      · rename_i isMatch
        obtain ⟨rfl, follows⟩ := isMatch
        obtain ⟨split, isRun⟩ := isRun_firstRun isWord follows
        rw [Option.some.inj found] at split isRun
        exact ⟨[], congrArg (first :: ·) split, List.not_mem_nil, isRun⟩
      · rename_i noMatch
        obtain ⟨before, rfl, absent, isRun⟩ := inductionHypothesis found
        refine ⟨first :: before, rfl, ?_, isRun⟩
        rw [List.mem_cons, not_or]
        refine ⟨fun same => noMatch ⟨same.symm, ?_⟩, absent⟩
        exact List.append_ne_nil_of_right_ne_nil _ (List.cons_ne_nil _ _)

end OneMatch

/-! ### Where a match begins -/

section Beginnings

variable {symbol : Letter} {isWord : Letter → Bool} {text run rest before after : List Letter}

/-- Each symbol in the text is followed by a word letter. -/
def Free (isWord : Letter → Bool) (symbol : Letter) (before : List Letter) : Prop :=
  ∀ first last, before = first ++ symbol :: last → ∃ letter ∈ last, isWord letter = true

/-- Between the two texts, the symbol begins a match with the run. -/
structure ReadAt (isWord : Letter → Bool) (symbol : Letter) (text before run after : List Letter) :
    Prop where
  split : text = before ++ symbol :: (run ++ after)
  free : Free isWord symbol before
  isRun : IsRun isWord run after

theorem free_of_absent (absent : symbol ∉ before) : Free isWord symbol before := by
  rintro first last rfl
  exact absurd (List.mem_append_right _ List.mem_cons_self) absent

theorem Free.of_append (free : Free isWord symbol (before ++ after)) :
    Free isWord symbol after := by
  rintro first last rfl
  exact free (before ++ first) last (List.append_assoc _ _ _).symm

/-- A run that is no word is followed by a word letter, if a symbol comes later. -/
theorem IsRun.exists_word (isRun : IsRun isWord run (after ++ symbol :: rest))
    (notWord : isWord symbol = false) (other : ∃ letter ∈ run, isWord letter = false) :
    ∃ letter ∈ after, isWord letter = true := by
  obtain ⟨-, kind, same, ends⟩ := isRun
  obtain ⟨letter, member, isOther⟩ := other
  rw [same letter member] at isOther
  subst isOther
  cases after with
  | nil => exact absurd notWord (ends symbol rfl)
  | cons next others =>
      exact ⟨next, List.mem_cons_self, eq_true_of_ne_false (ends next rfl)⟩

theorem IsRun.exists_word_append (isRun : IsRun isWord run (after ++ symbol :: rest))
    (notWord : isWord symbol = false) : ∃ letter ∈ run ++ after, isWord letter = true := by
  obtain ⟨first, others, rfl⟩ := List.exists_cons_of_ne_nil isRun.nonempty
  cases kind : isWord first with
  | true => exact ⟨first, List.mem_append_left _ List.mem_cons_self, kind⟩
  | false =>
      obtain ⟨letter, member, isLetter⟩ :=
        isRun.exists_word notWord ⟨first, List.mem_cons_self, kind⟩
      exact ⟨letter, List.mem_append_right _ member, isLetter⟩

/-- After a match, what is free in the rest is free in the text. -/
theorem Free.append (free : Free isWord symbol after) (notWord : isWord symbol = false)
    (absent : symbol ∉ before) (isRun : IsRun isWord run (after ++ symbol :: rest)) :
    Free isWord symbol (before ++ symbol :: (run ++ after)) := by
  intro first last split
  rcases List.append_eq_append_iff.mp split with ⟨between, rfl, matched⟩ | ⟨between, rfl, matched⟩
  · rcases List.cons_eq_append_iff.mp matched with ⟨rfl, same⟩ | ⟨others, rfl, inner⟩
    · rw [(List.cons.inj same).2]
      exact isRun.exists_word_append notWord
    rcases List.append_eq_append_iff.mp inner with ⟨later, rfl, isAfter⟩ | ⟨later, isRest, same⟩
    · exact free later last isAfter
    rcases List.cons_eq_append_iff.mp same with ⟨rfl, isAfter⟩ | ⟨tail, rfl, isLast⟩
    · exact free [] last isAfter
    · -- The symbol is inside of the run, which is no word.
      have inside : symbol ∈ run := isRest ▸ List.mem_append_right _ List.mem_cons_self
      obtain ⟨letter, member, isLetter⟩ := isRun.exists_word notWord ⟨symbol, inside, notWord⟩
      exact ⟨letter, isLast ▸ List.mem_append_right _ member, isLetter⟩
  · rcases List.cons_eq_append_iff.mp matched with ⟨rfl, same⟩ | ⟨others, rfl, -⟩
    · rw [← (List.cons.inj same).2]
      exact isRun.exists_word_append notWord
    · exact absurd (List.mem_append_right _ List.mem_cons_self) absent

/-- A run in front of a symbol ends there, if it is a word. -/
theorem IsRun.append_symbol (isRun : IsRun isWord run after) (notWord : isWord symbol = false)
    (word : ∃ letter ∈ run ++ after, isWord letter = true) (rest : List Letter) :
    IsRun isWord run (after ++ symbol :: rest) := by
  obtain ⟨nonempty, kind, same, ends⟩ := isRun
  refine ⟨nonempty, kind, same, fun letter isHead => ?_⟩
  cases after with
  | nil =>
      obtain ⟨found, member, isFound⟩ := word
      rw [List.append_nil] at member
      obtain rfl : symbol = letter := Option.some.inj isHead
      rw [notWord, ← same found member, isFound]
      exact Bool.false_ne_true
  | cons next others => exact ends letter isHead

theorem IsRun.of_append (isRun : IsRun isWord run (after ++ rest)) : IsRun isWord run after := by
  obtain ⟨nonempty, kind, same, ends⟩ := isRun
  refine ⟨nonempty, kind, same, fun letter isHead => ends letter ?_⟩
  rw [List.head?_append, Option.mem_def.mp isHead]
  rfl

end Beginnings

/-! ### All matches -/

section AllMatches

variable [DecidableEq Letter] {symbol : Letter} {isWord : Letter → Bool}
  {text run rest before after : List Letter}

theorem length_lt_of_find (found : find isWord symbol text = some (run, rest)) :
    rest.length < text.length := by
  obtain ⟨before, rfl, -, -⟩ := find_eq_some found
  simp only [List.length_append, List.length_cons]
  omega

/-- The length of the text is enough fuel. -/
theorem findAll_eq_findAll {first second : Nat} (enough : text.length ≤ first)
    (alsoEnough : text.length ≤ second) :
    findAll isWord symbol first text = findAll isWord symbol second text := by
  induction first generalizing second text with
  | zero =>
      obtain rfl := List.length_eq_zero_iff.mp (Nat.le_zero.mp enough)
      cases second <;> rfl
  | succ first inductionHypothesis =>
      cases second with
      | zero =>
          obtain rfl := List.length_eq_zero_iff.mp (Nat.le_zero.mp alsoEnough)
          rfl
      | succ second =>
          rw [findAll, findAll]
          cases found : find isWord symbol text with
          | none => rfl
          | some pair =>
              have shorter := length_lt_of_find found
              refine congrArg (pair.1 :: ·) (inductionHypothesis ?_ ?_) <;> omega

theorem runs_of_find (found : find isWord symbol text = some (run, rest)) :
    runs isWord symbol text = run :: runs isWord symbol rest := by
  have shorter := length_lt_of_find found
  obtain ⟨fuel, isFuel⟩ := Nat.exists_eq_succ_of_ne_zero (Nat.ne_zero_of_lt shorter)
  rw [runs, isFuel, findAll, found]
  refine congrArg (run :: ·) (findAll_eq_findAll ?_ (Nat.le_refl _))
  omega

theorem runs_of_not_find (notFound : find isWord symbol text = none) :
    runs isWord symbol text = [] := by
  rw [runs]
  cases text with
  | nil => rfl
  | cons first others => rw [List.length_cons, findAll, notFound]

theorem runs_of_absent (absent : symbol ∉ text) : runs isWord symbol text = [] :=
  runs_of_not_find (find_eq_none absent)

/-- The runs before and after a symbol that begins a match stay what they are. -/
theorem ReadAt.runs_eq (notWord : isWord symbol = false)
    (readAt : ReadAt isWord symbol text before run after) :
    runs isWord symbol text = runs isWord symbol before ++ run :: runs isWord symbol after := by
  obtain ⟨rfl, free, isRun⟩ := readAt
  induction isLength : before.length using Nat.strongRecOn generalizing before with
  | _ length inductionHypothesis =>
  by_cases present : symbol ∈ before
  · obtain ⟨skipped, others, rfl, absent⟩ := List.eq_append_cons_of_mem present
    have word := free skipped others rfl
    obtain ⟨first, remaining, rfl, isFirst⟩ : ∃ first remaining,
        others = first ++ remaining ∧ IsRun isWord first remaining := by
      obtain ⟨letter, member, -⟩ := word
      exact ⟨_, _, isRun_firstRun isWord (List.ne_nil_of_mem member)⟩
    have shorter : remaining.length < length := by
      rw [← isLength]
      simp only [List.length_append, List.length_cons]
      omega
    have freeRest : Free isWord symbol remaining := by
      rw [← List.cons_append, ← List.append_assoc] at free
      exact free.of_append
    have found := find_append absent (isFirst.append_symbol notWord word (run ++ after))
    rw [List.append_assoc, List.cons_append, List.append_assoc, runs_of_find found,
      inductionHypothesis _ shorter freeRest rfl, runs_of_find (find_append absent isFirst),
      List.cons_append]
  · rw [runs_of_find (find_append present isRun), runs_of_absent present, List.nil_append]

/-- The runs of a text are those before a symbol that begins a match, its own and those after it;
and each run is found so. -/
theorem runs_eq_append_iff (notWord : isWord symbol = false)
    {first last : List (List Letter)} :
    runs isWord symbol text = first ++ run :: last ↔
      ∃ before after, ReadAt isWord symbol text before run after ∧
        runs isWord symbol before = first ∧ runs isWord symbol after = last := by
  constructor
  · intro found
    induction first generalizing text with
    | nil =>
        cases next : find isWord symbol text with
        | none =>
            rw [runs_of_not_find next] at found
            cases found
        | some pair =>
            rw [runs_of_find next, List.nil_append] at found
            obtain ⟨rfl, rfl⟩ := List.cons.inj found
            obtain ⟨before, split, absent, isRun⟩ := find_eq_some next
            exact ⟨before, pair.2, ⟨split, free_of_absent absent, isRun⟩, runs_of_absent absent,
              rfl⟩
    | cons earlier others inductionHypothesis =>
        cases next : find isWord symbol text with
        | none =>
            rw [runs_of_not_find next] at found
            cases found
        | some pair =>
            rw [runs_of_find next, List.cons_append] at found
            obtain ⟨rfl, rest⟩ := List.cons.inj found
            obtain ⟨before, after, readAt, isFirst, isLast⟩ := inductionHypothesis rest
            obtain ⟨skipped, rfl, absent, isRun⟩ := find_eq_some next
            obtain ⟨split, free, isOwn⟩ := readAt
            rw [split] at isRun
            refine ⟨skipped ++ symbol :: (pair.1 ++ before), after, ⟨?_, ?_, isOwn⟩, ?_, isLast⟩
            · simp only [split, List.append_assoc, List.cons_append]
            · exact free.append notWord absent isRun
            · rw [runs_of_find (find_append absent isRun.of_append), isFirst]
  · rintro ⟨before, after, readAt, rfl, rfl⟩
    exact readAt.runs_eq notWord

end AllMatches

end Matches
