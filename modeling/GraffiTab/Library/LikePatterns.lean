/-
This file is about patterns with wildcards, and about texts that are put into them.

Of three marks, one stands for any text, one for any letter, and one takes the meaning from the
letter after it. Letters are compared by a key. A text without marks, put between marks for any
text, is a pattern for the texts that contain it. A text with marks is not: some text is accepted
that is shorter, or has another letter in the place of a mark, and so does not contain it.
-/

import Mathlib.Data.List.Infix

namespace LikePatterns

universe u v

variable {Letter : Type u} {Key : Type v}

/-! ### Patterns -/

inductive Token (Letter : Type u) where
  | literal (letter : Letter)
  | anyLetter
  | anyText

/-- The marks for any text and any letter, and the one that takes the meaning from a letter. -/
structure Marks (Letter : Type u) where
  anyText : Letter
  anyLetter : Letter
  escape : Letter

section Patterns

variable [DecidableEq Letter] (marks : Marks Letter)

/-- The meaning of a letter that is not escaped and does not escape. -/
def token (letter : Letter) : Token Letter :=
  if letter = marks.anyText then .anyText
  else if letter = marks.anyLetter then .anyLetter
  else .literal letter

/-- The tokens of a pattern; at its end, the mark that escapes stands for itself. -/
def parse : List Letter → List (Token Letter)
  | [] => []
  | [last] => [token marks last]
  | first :: next :: rest =>
      if first = marks.escape then .literal next :: parse rest
      else token marks first :: parse (next :: rest)

/-- The text has none of the marks. -/
def Plain (text : List Letter) : Prop :=
  marks.anyText ∉ text ∧ marks.anyLetter ∉ text ∧ marks.escape ∉ text

/-- The marks have different keys. -/
structure Distinguished (key : Letter → Key) : Prop where
  anyLetter : key marks.anyText ≠ key marks.anyLetter
  escape : key marks.anyText ≠ key marks.escape

variable [DecidableEq Key] (key : Letter → Key)

/-- Whether the pattern accepts the text. -/
def accepts : List (Token Letter) → List Letter → Bool
  | [], text => text.isEmpty
  | .literal letter :: rest, text =>
      match text with
      | [] => false
      | first :: others => key first = key letter && accepts rest others
  | .anyLetter :: rest, text =>
      match text with
      | [] => false
      | _ :: others => accepts rest others
  | .anyText :: rest, text => text.tails.any fun remaining => accepts rest remaining

end Patterns

section Acceptance

variable [DecidableEq Key] {key : Letter → Key} {text stored : List Letter}
  {rest : List (Token Letter)}

theorem accepts_anyText :
    accepts key (.anyText :: rest) stored = true ↔
      ∃ remaining, remaining <:+ stored ∧ accepts key rest remaining = true := by
  simp only [accepts, List.any_eq_true, List.mem_tails]

theorem accepts_only_anyText (stored : List Letter) : accepts key [.anyText] stored = true :=
  accepts_anyText.mpr ⟨[], List.nil_suffix, rfl⟩

/-- Literals accept a beginning of the text with the same keys. -/
theorem accepts_literals :
    accepts key (text.map .literal ++ rest) stored = true ↔
      ∃ first others, stored = first ++ others ∧ first.map key = text.map key ∧
        accepts key rest others = true := by
  induction text generalizing stored with
  | nil =>
      constructor
      · exact fun accepted => ⟨[], stored, rfl, rfl, accepted⟩
      · rintro ⟨first, others, rfl, same, accepted⟩
        rw [List.map_eq_nil_iff.mp same]
        exact accepted
  | cons letter text inductionHypothesis =>
      cases stored with
      | nil =>
          refine iff_of_false Bool.false_ne_true ?_
          rintro ⟨first, others, split, same, -⟩
          rw [(List.append_eq_nil_iff.mp split.symm).1] at same
          cases same
      | cons head stored =>
          rw [List.map_cons, List.cons_append, accepts, Bool.and_eq_true, decide_eq_true_eq,
            inductionHypothesis]
          constructor
          · rintro ⟨sameKey, first, others, rfl, same, accepted⟩
            exact ⟨head :: first, others, rfl, congrArg₂ List.cons sameKey same, accepted⟩
          · rintro ⟨first, others, split, same, accepted⟩
            cases first with
            | nil => cases same
            | cons start first =>
                obtain ⟨rfl, rfl⟩ := List.cons.inj split
                obtain ⟨sameKey, same⟩ := List.cons.inj same
                exact ⟨sameKey, first, others, rfl, same, accepted⟩

/-- A shortest text that the pattern accepts, with the letter in the place of any letter. -/
def sample (letter : Letter) : List (Token Letter) → List Letter
  | [] => []
  | .literal own :: rest => own :: sample letter rest
  | .anyLetter :: rest => letter :: sample letter rest
  | .anyText :: rest => sample letter rest

theorem accepts_sample (letter : Letter) (pattern : List (Token Letter)) :
    accepts key pattern (sample letter pattern) = true := by
  induction pattern with
  | nil => rfl
  | cons first rest inductionHypothesis =>
      cases first with
      | literal own =>
          rw [sample, accepts, Bool.and_eq_true, decide_eq_true_eq]
          exact ⟨rfl, inductionHypothesis⟩
      | anyLetter => exact inductionHypothesis
      | anyText => exact accepts_anyText.mpr ⟨_, List.suffix_rfl, inductionHypothesis⟩

end Acceptance

theorem Distinguished.anyText_ne_escape {marks : Marks Letter} {key : Letter → Key}
    (distinguished : Distinguished marks key) : marks.anyText ≠ marks.escape :=
  fun same => distinguished.escape (congrArg key same)

theorem map_ne_of_shorter {key : Letter → Key} {first second : List Letter}
    (shorter : first.length < second.length) : first.map key ≠ second.map key := by
  intro same
  have lengths := congrArg List.length same
  rw [List.length_map, List.length_map] at lengths
  exact Nat.ne_of_lt shorter lengths

section Parsing

variable [DecidableEq Letter] {marks : Marks Letter} {key : Letter → Key} {text : List Letter}

theorem parse_cons {first : Letter} (notEscape : first ≠ marks.escape) (text : List Letter) :
    parse marks (first :: text) = token marks first :: parse marks text := by
  cases text with
  | nil => rfl
  | cons next others => rw [parse, if_neg notEscape]

theorem parse_escape (next : Letter) (text : List Letter) :
    parse marks (marks.escape :: next :: text) = .literal next :: parse marks text := by
  rw [parse, if_pos rfl]

theorem parse_of_plain (plain : Plain marks text) :
    parse marks (text ++ [marks.anyText]) = text.map .literal ++ [.anyText] := by
  induction text with
  | nil => rw [List.nil_append, parse, token, if_pos rfl, List.map_nil, List.nil_append]
  | cons first text inductionHypothesis =>
      obtain ⟨noAnyText, noAnyLetter, noEscape⟩ := plain
      rw [List.mem_cons, not_or] at noAnyText noAnyLetter noEscape
      rw [List.cons_append, parse_cons (Ne.symm noEscape.1), token, if_neg (Ne.symm noAnyText.1),
        if_neg (Ne.symm noAnyLetter.1), inductionHypothesis ⟨noAnyText.2, noAnyLetter.2,
        noEscape.2⟩, List.map_cons, List.cons_append]

theorem parse_anyText_cons (distinguished : Distinguished marks key) (text : List Letter) :
    parse marks (marks.anyText :: text) = .anyText :: parse marks text := by
  rw [parse_cons distinguished.anyText_ne_escape, token, if_pos rfl]

/-- The sample of a text in front of the mark for any text. -/
def filled (marks : Marks Letter) (text : List Letter) : List Letter :=
  sample marks.anyText (parse marks (text ++ [marks.anyText]))

theorem filled_cons {first : Letter} (notEscape : first ≠ marks.escape) (text : List Letter) :
    filled marks (first :: text) =
      if first = marks.anyText then filled marks text
      else if first = marks.anyLetter then marks.anyText :: filled marks text
      else first :: filled marks text := by
  unfold filled
  rw [List.cons_append, parse_cons notEscape, token]
  split
  · rfl
  · split <;> rfl

/-- The filled text is not longer than the text, and with the same keys it has no marks. -/
theorem filled_spec (distinguished : Distinguished marks key) (text : List Letter) :
    (filled marks text).length ≤ text.length ∧
      ((filled marks text).map key = text.map key → Plain marks text) := by
  induction isLength : text.length using Nat.strongRecOn generalizing text with
  | _ length inductionHypothesis =>
  subst isLength
  cases text with
  | nil =>
      refine ⟨?_, fun _ => ⟨List.not_mem_nil, List.not_mem_nil, List.not_mem_nil⟩⟩
      rw [filled, List.nil_append, parse, token, if_pos rfl]
      exact Nat.le_refl 0
  | cons first text =>
      by_cases escapes : first = marks.escape
      · subst escapes
        cases text with
        | nil =>
            have isFilled : filled marks [marks.escape] = [marks.anyText] := by
              rw [filled, List.singleton_append, parse_escape]
              rfl
            rw [isFilled]
            refine ⟨Nat.le_refl 1, fun same => ?_⟩
            exact absurd (List.cons.inj same).1 distinguished.escape
        | cons next text =>
            have isFilled : filled marks (marks.escape :: next :: text) =
                next :: filled marks text := by
              rw [filled, List.cons_append, List.cons_append, parse_escape]
              rfl
            have short := (inductionHypothesis text.length
              (Nat.lt_add_of_pos_right (Nat.succ_pos 1)) text rfl).1
            have shorter : (next :: filled marks text).length <
                (marks.escape :: next :: text).length :=
              Nat.succ_lt_succ (Nat.lt_succ_of_le short)
            rw [isFilled]
            exact ⟨Nat.le_of_lt shorter, fun same => absurd same (map_ne_of_shorter shorter)⟩
      · obtain ⟨short, different⟩ := inductionHypothesis text.length (Nat.lt_succ_self _) text rfl
        rw [filled_cons escapes]
        split
        · have shorter : (filled marks text).length < (first :: text).length :=
            Nat.lt_succ_of_le short
          exact ⟨Nat.le_of_lt shorter, fun same => absurd same (map_ne_of_shorter shorter)⟩
        rename_i notAnyText
        split
        · rename_i isAnyLetter
          refine ⟨Nat.succ_le_succ short, fun same => ?_⟩
          rw [isAnyLetter] at same
          exact absurd (List.cons.inj same).1 distinguished.anyLetter
        · rename_i notAnyLetter
          refine ⟨Nat.succ_le_succ short, fun same => ?_⟩
          obtain ⟨noAnyText, noAnyLetter, noEscape⟩ := different (List.cons.inj same).2
          simp only [Plain, List.mem_cons, not_or]
          exact ⟨⟨Ne.symm notAnyText, noAnyText⟩, ⟨Ne.symm notAnyLetter, noAnyLetter⟩,
            ⟨Ne.symm escapes, noEscape⟩⟩

end Parsing

/-! ### Searches -/

section Searches

variable [DecidableEq Letter] [DecidableEq Key] {marks : Marks Letter} {key : Letter → Key}
  {text stored : List Letter}

/-- A plain text with the mark for any text behind it accepts what begins with the text. -/
theorem accepts_startsWith (plain : Plain marks text) :
    accepts key (parse marks (text ++ [marks.anyText])) stored = true ↔
      text.map key <+: stored.map key := by
  rw [parse_of_plain plain, accepts_literals]
  constructor
  · rintro ⟨first, others, rfl, same, -⟩
    rw [List.map_append, same]
    exact List.prefix_append _ _
  · rintro ⟨others, split⟩
    obtain ⟨first, remaining, rfl, same, -⟩ := List.map_eq_append_iff.mp split.symm
    exact ⟨first, remaining, rfl, same, accepts_only_anyText remaining⟩

/-- A plain text between marks for any text accepts what contains the text. -/
theorem accepts_contains (distinguished : Distinguished marks key) (plain : Plain marks text) :
    accepts key (parse marks (marks.anyText :: text ++ [marks.anyText])) stored = true ↔
      text.map key <:+: stored.map key := by
  rw [List.cons_append, parse_anyText_cons distinguished, accepts_anyText]
  constructor
  · rintro ⟨remaining, ⟨before, rfl⟩, accepted⟩
    rw [List.map_append]
    exact ((accepts_startsWith plain).mp accepted).isInfix.trans (List.suffix_append _ _).isInfix
  · rintro ⟨before, after, split⟩
    rw [List.append_assoc] at split
    obtain ⟨first, remaining, rfl, -, found⟩ := List.map_eq_append_iff.mp split.symm
    refine ⟨remaining, List.suffix_append _ _, (accepts_startsWith plain).mpr ?_⟩
    rw [found]
    exact List.prefix_append _ _

/-- A text with marks, between marks for any text, accepts what does not contain the text. -/
theorem exists_accepted (distinguished : Distinguished marks key) (notPlain : ¬ Plain marks text) :
    ∃ stored, accepts key (parse marks (marks.anyText :: text ++ [marks.anyText])) stored = true ∧
      ¬ text.map key <:+: stored.map key := by
  obtain ⟨short, different⟩ := filled_spec distinguished text
  refine ⟨filled marks text, ?_, fun contained => notPlain (different ?_)⟩
  · rw [List.cons_append, parse_anyText_cons distinguished]
    exact accepts_anyText.mpr ⟨_, List.suffix_rfl, accepts_sample marks.anyText _⟩
  · refine (contained.eq_of_length_le ?_).symm
    rw [List.length_map, List.length_map]
    exact short

end Searches

end LikePatterns
