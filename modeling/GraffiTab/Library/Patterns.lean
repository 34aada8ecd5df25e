/-
This file is about the patterns that validations are written with.

They are regular expressions put together of classes of characters, repetitions, and pieces
with a separator between them. When no piece contains the separator, a word matches if and only if
its pieces do, so a pattern can be checked by splitting the word.
-/

import Mathlib.Computability.RegularExpressions

namespace Patterns

open RegularExpression

universe u

variable {Symbol : Type u}

/-- A symbol of the list. -/
def oneOf (symbols : List Symbol) : RegularExpression Symbol :=
  symbols.foldr (fun symbol pattern => char symbol + pattern) 0

/-- One match or more. -/
def oneOrMore (pattern : RegularExpression Symbol) : RegularExpression Symbol :=
  pattern * pattern.star

/-- A match or nothing. -/
def optional (pattern : RegularExpression Symbol) : RegularExpression Symbol := 1 + pattern

/-- One match or more, with the separator between them. -/
def separated (separator : Symbol) (pattern : RegularExpression Symbol) :
    RegularExpression Symbol :=
  pattern * (char separator * pattern).star

/-- Two matches or more, with the separator between them. -/
def separatedTwice (separator : Symbol) (pattern : RegularExpression Symbol) :
    RegularExpression Symbol :=
  oneOrMore (pattern * char separator) * pattern

/-! ### Classes of symbols -/

section Classes

variable {symbols word : List Symbol}

theorem mem_oneOf :
    word ∈ (oneOf symbols).matches' ↔ ∃ symbol ∈ symbols, word = [symbol] := by
  induction symbols with
  | nil => exact iff_of_false id fun ⟨_, member, _⟩ => absurd member List.not_mem_nil
  | cons symbol rest inductionHypothesis =>
      rw [oneOf, List.foldr_cons, matches'_add, Language.mem_add, matches'_char]
      refine (or_congr Iff.rfl inductionHypothesis).trans ?_
      simp only [List.mem_cons, exists_eq_or_imp]
      exact Iff.rfl

theorem mem_star_oneOf :
    word ∈ (oneOf symbols).star.matches' ↔ ∀ symbol ∈ word, symbol ∈ symbols := by
  rw [matches'_star, Language.mem_kstar]
  constructor
  · rintro ⟨words, rfl, each⟩ symbol member
    obtain ⟨single, singleMember, inSingle⟩ := List.mem_flatten.mp member
    obtain ⟨other, otherMember, rfl⟩ := mem_oneOf.mp (each single singleMember)
    rw [List.mem_singleton.mp inSingle]
    exact otherMember
  · intro all
    refine ⟨word.map fun symbol => [symbol], ?_, fun single member => ?_⟩
    · rw [← List.flatMap_def, List.flatMap_singleton']
    · obtain ⟨symbol, symbolMember, rfl⟩ := List.mem_map.mp member
      exact mem_oneOf.mpr ⟨symbol, all symbol symbolMember, rfl⟩

theorem mem_oneOrMore_oneOf :
    word ∈ (oneOrMore (oneOf symbols)).matches' ↔
      word ≠ [] ∧ ∀ symbol ∈ word, symbol ∈ symbols := by
  rw [oneOrMore, matches'_mul, Language.mem_mul]
  constructor
  · rintro ⟨first, firstMatches, rest, restMatches, rfl⟩
    obtain ⟨symbol, member, rfl⟩ := mem_oneOf.mp firstMatches
    exact ⟨List.cons_ne_nil symbol rest,
      List.forall_mem_cons.mpr ⟨member, mem_star_oneOf.mp restMatches⟩⟩
  · rintro ⟨nonempty, all⟩
    obtain ⟨symbol, rest, rfl⟩ := List.exists_cons_of_ne_nil nonempty
    obtain ⟨member, restAll⟩ := List.forall_mem_cons.mp all
    exact ⟨[symbol], mem_oneOf.mpr ⟨symbol, member, rfl⟩, rest, mem_star_oneOf.mpr restAll, rfl⟩

theorem mem_optional {pattern : RegularExpression Symbol} :
    word ∈ (optional pattern).matches' ↔ word = [] ∨ word ∈ pattern.matches' := by
  rw [optional, matches'_add, Language.mem_add, matches'_epsilon, Language.mem_one]

end Classes

/-! ### Separated pieces -/

section Separated

variable {separator : Symbol} {pattern : RegularExpression Symbol} {word : List Symbol}

theorem intercalate_cons (separator : Symbol) (first : List Symbol) (rest : List (List Symbol)) :
    [separator].intercalate (first :: rest) =
      first ++ (rest.map fun piece => separator :: piece).flatten := by
  induction rest generalizing first with
  | nil => rw [List.intercalate_singleton, List.map_nil, List.flatten_nil, List.append_nil]
  | cons second rest inductionHypothesis =>
      rw [List.intercalate_cons_cons, inductionHypothesis, List.map_cons, List.flatten_cons,
        List.append_assoc, List.singleton_append, List.cons_append]

theorem intercalate_concat (separator : Symbol) (pieces : List (List Symbol))
    (last : List Symbol) :
    [separator].intercalate (pieces ++ [last]) =
      (pieces.map fun piece => piece ++ [separator]).flatten ++ last := by
  induction pieces with
  | nil => rw [List.nil_append, List.intercalate_singleton, List.map_nil, List.flatten_nil,
      List.nil_append]
  | cons first rest inductionHypothesis =>
      rw [List.cons_append, List.intercalate_cons_of_ne_nil (by simp), inductionHypothesis,
        List.map_cons, List.flatten_cons, List.append_assoc, List.append_assoc, List.append_assoc]

theorem mem_char_mul :
    word ∈ (char separator * pattern).matches' ↔
      ∃ piece ∈ pattern.matches', word = separator :: piece := by
  rw [matches'_mul, Language.mem_mul]
  constructor
  · rintro ⟨head, headMatches, piece, pieceMatches, rfl⟩
    rw [matches'_char] at headMatches
    obtain rfl := headMatches
    exact ⟨piece, pieceMatches, rfl⟩
  · rintro ⟨piece, pieceMatches, rfl⟩
    exact ⟨[separator], rfl, piece, pieceMatches, rfl⟩

theorem mem_mul_char :
    word ∈ (pattern * char separator).matches' ↔
      ∃ piece ∈ pattern.matches', word = piece ++ [separator] := by
  rw [matches'_mul, Language.mem_mul]
  constructor
  · rintro ⟨piece, pieceMatches, last, lastMatches, rfl⟩
    rw [matches'_char] at lastMatches
    obtain rfl := lastMatches
    exact ⟨piece, pieceMatches, rfl⟩
  · rintro ⟨piece, pieceMatches, rfl⟩
    exact ⟨piece, pieceMatches, [separator], rfl, rfl⟩

/-- Words that each are a matching piece with the separator are the pieces, with the separator. -/
theorem exists_pieces {words : List (List Symbol)} (wrap : List Symbol → List Symbol)
    (each : ∀ word ∈ words, ∃ piece ∈ pattern.matches', word = wrap piece) :
    ∃ pieces : List (List Symbol), (∀ piece ∈ pieces, piece ∈ pattern.matches') ∧
      words = pieces.map wrap := by
  induction words with
  | nil => exact ⟨[], fun piece member => absurd member List.not_mem_nil, rfl⟩
  | cons first rest inductionHypothesis =>
      obtain ⟨⟨piece, pieceMatches, rfl⟩, restMatches⟩ := List.forall_mem_cons.mp each
      obtain ⟨pieces, all, rfl⟩ := inductionHypothesis restMatches
      exact ⟨piece :: pieces, List.forall_mem_cons.mpr ⟨pieceMatches, all⟩, rfl⟩

theorem mem_separated_iff_intercalate :
    word ∈ (separated separator pattern).matches' ↔
      ∃ first rest, word = [separator].intercalate (first :: rest) ∧
        ∀ piece ∈ first :: rest, piece ∈ pattern.matches' := by
  rw [separated, matches'_mul, Language.mem_mul]
  constructor
  · rintro ⟨first, firstMatches, tail, tailMatches, rfl⟩
    rw [matches'_star, Language.mem_kstar] at tailMatches
    obtain ⟨words, rfl, each⟩ := tailMatches
    obtain ⟨pieces, all, rfl⟩ := exists_pieces (separator :: ·) fun word member =>
      mem_char_mul.mp (each word member)
    exact ⟨first, pieces, (intercalate_cons separator first pieces).symm,
      List.forall_mem_cons.mpr ⟨firstMatches, all⟩⟩
  · rintro ⟨first, rest, rfl, all⟩
    obtain ⟨firstMatches, restMatch⟩ := List.forall_mem_cons.mp all
    refine ⟨first, firstMatches, _, ?_, (intercalate_cons separator first rest).symm⟩
    rw [matches'_star]
    refine Language.join_mem_kstar fun word member => ?_
    obtain ⟨piece, pieceMember, rfl⟩ := List.mem_map.mp member
    exact mem_char_mul.mpr ⟨piece, restMatch piece pieceMember, rfl⟩

theorem mem_separatedTwice_iff_intercalate :
    word ∈ (separatedTwice separator pattern).matches' ↔
      ∃ first rest last, word = [separator].intercalate (first :: rest ++ [last]) ∧
        ∀ piece ∈ first :: rest ++ [last], piece ∈ pattern.matches' := by
  rw [separatedTwice, oneOrMore, matches'_mul, matches'_mul, Language.mem_mul]
  constructor
  · rintro ⟨start, startMatches, last, lastMatches, rfl⟩
    obtain ⟨head, headMatches, tail, tailMatches, rfl⟩ := Language.mem_mul.mp startMatches
    rw [matches'_star, Language.mem_kstar] at tailMatches
    obtain ⟨words, rfl, each⟩ := tailMatches
    have both := List.forall_mem_cons.mpr ⟨headMatches, each⟩
    obtain ⟨pieces, all, same⟩ := exists_pieces (· ++ [separator]) fun word member =>
      mem_mul_char.mp (both word member)
    obtain ⟨first, rest, rfl⟩ : ∃ first rest, pieces = first :: rest := by
      cases pieces with
      | nil => cases same
      | cons first rest => exact ⟨first, rest, rfl⟩
    refine ⟨first, rest, last, ?_, ?_⟩
    · rw [intercalate_concat, ← same, List.flatten_cons]
    · intro piece member
      rcases List.mem_append.mp member with earlier | isLast
      · exact all piece earlier
      · exact List.mem_singleton.mp isLast ▸ lastMatches
  · rintro ⟨first, rest, last, rfl, all⟩
    have each (piece : List Symbol) (member : piece ∈ first :: rest) :
        piece ++ [separator] ∈ (pattern * char separator).matches' :=
      mem_mul_char.mpr ⟨piece, all piece (List.mem_append_left _ member), rfl⟩
    refine ⟨((first :: rest).map fun piece => piece ++ [separator]).flatten, ?_, last,
      all last (List.mem_append_right _ (List.mem_singleton_self last)),
      (intercalate_concat separator (first :: rest) last).symm⟩
    rw [List.map_cons, List.flatten_cons, matches'_star]
    refine Language.append_mem_mul (each first List.mem_cons_self)
      (Language.join_mem_kstar fun word member => ?_)
    obtain ⟨piece, pieceMember, rfl⟩ := List.mem_map.mp member
    exact each piece (List.mem_cons_of_mem _ pieceMember)

variable [DecidableEq Symbol]

/-- A word matches exactly if its pieces do. -/
theorem mem_separated (free : ∀ piece ∈ pattern.matches', separator ∉ piece) :
    word ∈ (separated separator pattern).matches' ↔
      ∀ piece ∈ word.splitOn separator, piece ∈ pattern.matches' := by
  rw [mem_separated_iff_intercalate]
  constructor
  · rintro ⟨first, rest, rfl, all⟩
    rwa [List.splitOn_intercalate separator (fun piece member => free piece (all piece member))
      (List.cons_ne_nil first rest)]
  · intro all
    obtain ⟨first, rest, split⟩ :=
      List.exists_cons_of_ne_nil (List.splitOn_ne_nil separator word)
    rw [split] at all
    exact ⟨first, rest, by rw [← split, List.intercalate_splitOn], all⟩

theorem mem_separatedTwice (free : ∀ piece ∈ pattern.matches', separator ∉ piece) :
    word ∈ (separatedTwice separator pattern).matches' ↔
      2 ≤ (word.splitOn separator).length ∧
        ∀ piece ∈ word.splitOn separator, piece ∈ pattern.matches' := by
  rw [mem_separatedTwice_iff_intercalate]
  constructor
  · rintro ⟨first, rest, last, rfl, all⟩
    rw [List.splitOn_intercalate separator (fun piece member => free piece (all piece member))
      (List.cons_ne_nil first _)]
    refine ⟨?_, all⟩
    rw [List.length_append, List.length_cons, List.length_singleton]
    omega
  · rintro ⟨two, all⟩
    obtain ⟨first, tail, split⟩ :=
      List.exists_cons_of_ne_nil (List.splitOn_ne_nil separator word)
    rw [split] at two all
    have tailNonempty : tail ≠ [] := by
      rintro rfl
      exact absurd two (show ¬ 2 ≤ 1 by decide)
    refine ⟨first, tail.dropLast, tail.getLast tailNonempty, ?_, ?_⟩
    · rw [List.cons_append, List.dropLast_append_getLast, ← split, List.intercalate_splitOn]
    · rwa [List.cons_append, List.dropLast_append_getLast]

end Separated

end Patterns
