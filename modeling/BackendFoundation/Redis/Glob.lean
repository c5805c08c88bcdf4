/-
The glob patterns of KEYS and SCAN MATCH, on bytes: a star for any text, a question mark for
any byte, classes in brackets, and a backslash that takes the meaning of the next byte.

A pattern is read into tokens first. An open class goes on to the end of the pattern, and a
last backslash stands for itself.
-/

import BackendFoundation.Redis.Utf8
import Mathlib.Data.List.Infix

namespace BackendFoundation.Redis

inductive Token
  | literal (byte : UInt8)
  | anyByte
  | byteClass (negated : Bool) (ranges : List (UInt8 × UInt8))
  | star
deriving DecidableEq, Repr

/-- The ends of a range may come in either order. -/
def inRange (byte : UInt8) (range : UInt8 × UInt8) : Bool :=
  decide (min range.1 range.2 ≤ byte ∧ byte ≤ max range.1 range.2)

def Token.accepts : Token → UInt8 → Bool
  | literal expected, byte => byte == expected
  | anyByte, _ => true
  | byteClass negated ranges, byte => ranges.any (inRange byte) != negated
  | star, _ => false

mutual

/-- The bytes 42, 63, 91, 92, 93, 94 and 45 are * ? [ \ ] ^ and -. -/
def tokens : List UInt8 → List Token
  | [] => []
  | 42 :: rest => .star :: tokens rest
  | 63 :: rest => .anyByte :: tokens rest
  | 91 :: 94 :: rest => classTokens true [] rest
  | 91 :: rest => classTokens false [] rest
  | 92 :: byte :: rest => .literal byte :: tokens rest
  | byte :: rest => .literal byte :: tokens rest
termination_by structural pattern => pattern

/-- Inside a class, after the ranges that were read. -/
def classTokens (negated : Bool) (ranges : List (UInt8 × UInt8)) : List UInt8 → List Token
  | [] => [.byteClass negated ranges]
  | 92 :: byte :: rest => classTokens negated ((byte, byte) :: ranges) rest
  | 93 :: rest => .byteClass negated ranges :: tokens rest
  | low :: 45 :: high :: rest => classTokens negated ((low, high) :: ranges) rest
  | byte :: rest => classTokens negated ((byte, byte) :: ranges) rest
termination_by structural pattern => pattern

end

def matchTokens : List Token → List UInt8 → Bool
  | [], text => text.isEmpty
  | .star :: rest, text => text.tails.any fun remaining => matchTokens rest remaining
  | token :: rest, byte :: text => token.accepts byte && matchTokens rest text
  | _ :: _, [] => false
termination_by structural tokens => tokens

/-- Whether a key matches a pattern. -/
def stringmatch (pattern text : String) : Bool :=
  matchTokens (tokens (utf8 pattern)) (utf8 text)

attribute [local simp] tokens classTokens matchTokens

theorem matchTokens_star {rest : List Token} {text : List UInt8} :
    matchTokens (.star :: rest) text = true ↔
      ∃ skipped remaining, text = skipped ++ remaining ∧ matchTokens rest remaining = true := by
  rw [matchTokens, List.any_eq_true]
  constructor
  · intro found
    obtain ⟨remaining, tail, matched⟩ := found
    obtain ⟨skipped, whole⟩ := (List.mem_tails remaining text).mp tail
    exact ⟨skipped, remaining, whole.symm, matched⟩
  · intro found
    obtain ⟨skipped, remaining, whole, matched⟩ := found
    exact ⟨remaining, (List.mem_tails remaining text).mpr ⟨skipped, whole.symm⟩, matched⟩

theorem matchTokens_cons {token : Token} (single : token ≠ .star) {rest : List Token}
    {text : List UInt8} :
    matchTokens (token :: rest) text = true ↔
      ∃ byte remaining, text = byte :: remaining ∧ token.accepts byte = true ∧
        matchTokens rest remaining = true := by
  cases text with
  | nil =>
      cases token with
      | star => exact absurd rfl single
      | literal | anyByte | byteClass => simp [matchTokens]
  | cons byte remaining =>
      cases token with
      | star => exact absurd rfl single
      | literal | anyByte | byteClass => simp [matchTokens]

theorem matchTokens_append {first second : List Token} {text : List UInt8} :
    matchTokens (first ++ second) text = true ↔
      ∃ front back, text = front ++ back ∧ matchTokens first front = true ∧
        matchTokens second back = true := by
  induction first generalizing text with
  | nil =>
      constructor
      · intro matched
        exact ⟨[], text, rfl, rfl, matched⟩
      · intro split
        obtain ⟨front, back, rfl, empty, matched⟩ := split
        cases front with
        | nil => exact matched
        | cons byte front => cases empty
  | cons token first ih =>
      by_cases single : token = .star
      · subst single
        rw [List.cons_append, matchTokens_star]
        constructor
        · intro split
          obtain ⟨skipped, remaining, rfl, matched⟩ := split
          obtain ⟨front, back, rfl, inFront, inBack⟩ := ih.mp matched
          exact ⟨skipped ++ front, back, (List.append_assoc _ _ _).symm,
            matchTokens_star.mpr ⟨skipped, front, rfl, inFront⟩, inBack⟩
        · intro split
          obtain ⟨front, back, rfl, inFront, inBack⟩ := split
          obtain ⟨skipped, remaining, rfl, matched⟩ := matchTokens_star.mp inFront
          exact ⟨skipped, remaining ++ back, List.append_assoc _ _ _,
            ih.mpr ⟨remaining, back, rfl, matched, inBack⟩⟩
      · rw [List.cons_append, matchTokens_cons single]
        constructor
        · intro split
          obtain ⟨byte, remaining, rfl, accepted, matched⟩ := split
          obtain ⟨front, back, rfl, inFront, inBack⟩ := ih.mp matched
          exact ⟨byte :: front, back, rfl,
            (matchTokens_cons single).mpr ⟨byte, front, rfl, accepted, inFront⟩, inBack⟩
        · intro split
          obtain ⟨front, back, rfl, inFront, inBack⟩ := split
          obtain ⟨byte, remaining, rfl, accepted, matched⟩ := (matchTokens_cons single).mp inFront
          exact ⟨byte, remaining ++ back, rfl, accepted,
            ih.mpr ⟨remaining, back, rfl, matched, inBack⟩⟩

/-- A star also takes in a repetition of the text, with anything between the two. -/
theorem matchTokens_repeat {pattern : List Token} {text : List UInt8}
    (stretches : Token.star ∈ pattern) (matched : matchTokens pattern text = true)
    (between : List UInt8) : matchTokens pattern (text ++ between ++ text) = true := by
  obtain ⟨first, second, rfl⟩ := List.append_of_mem stretches
  obtain ⟨front, back, rfl, inFront, inBack⟩ := matchTokens_append.mp matched
  obtain ⟨skipped, remaining, rfl, inRemaining⟩ := matchTokens_star.mp inBack
  refine matchTokens_append.mpr ⟨front,
    (skipped ++ remaining ++ between ++ front ++ skipped) ++ remaining, ?_, inFront, ?_⟩
  · simp only [List.append_assoc]
  · exact matchTokens_star.mpr ⟨_, remaining, rfl, inRemaining⟩

/-- Without a star every token is one byte. -/
theorem length_of_matchTokens {pattern : List Token} {text : List UInt8}
    (single : Token.star ∉ pattern) (matched : matchTokens pattern text = true) :
    pattern.length = text.length := by
  induction pattern generalizing text with
  | nil =>
      cases text with
      | nil => rfl
      | cons byte text => cases matched
  | cons token pattern ih =>
      have notStar : token ≠ .star := fun same => single (same ▸ List.mem_cons_self)
      obtain ⟨byte, remaining, rfl, _, rest⟩ := (matchTokens_cons notStar).mp matched
      rw [List.length_cons, List.length_cons,
        ih (fun member => single (List.mem_cons_of_mem token member)) rest]

/-- The bytes that do not stand for themselves. -/
def special : List UInt8 := [42, 63, 91, 92]

theorem tokens_plain {byte : UInt8} (plain : byte ∉ special) (rest : List UInt8) :
    tokens (byte :: rest) = .literal byte :: tokens rest := by
  simp only [special, List.mem_cons, List.not_mem_nil, or_false, not_or] at plain
  obtain ⟨notStar, notAny, notClass, notEscape⟩ := plain
  exact tokens.eq_7 byte rest notStar notAny (fun _ same _ => notClass same) notClass
    (fun _ _ same _ => notEscape same)

/-- A plain front of a pattern is found as it is, and the rest is matched behind it. -/
theorem matchTokens_plain {front : List UInt8} (plain : ∀ byte ∈ front, byte ∉ special)
    {pattern text : List UInt8} :
    matchTokens (tokens (front ++ pattern)) text = true ↔
      ∃ rest, text = front ++ rest ∧ matchTokens (tokens pattern) rest = true := by
  induction front generalizing text with
  | nil =>
      constructor
      · intro matched
        exact ⟨text, rfl, matched⟩
      · intro found
        obtain ⟨rest, rfl, matched⟩ := found
        exact matched
  | cons byte front ih =>
      have single : Token.literal byte ≠ .star := Token.noConfusion
      rw [List.cons_append, tokens_plain (plain byte List.mem_cons_self), matchTokens_cons single]
      have behind := @ih fun other member => plain other (List.mem_cons_of_mem byte member)
      constructor
      · intro found
        obtain ⟨first, remaining, rfl, accepted, matched⟩ := found
        obtain ⟨rest, rfl, inRest⟩ := behind.mp matched
        have same : first = byte := eq_of_beq accepted
        exact ⟨rest, same ▸ rfl, inRest⟩
      · intro found
        obtain ⟨rest, rfl, matched⟩ := found
        exact ⟨byte, front ++ rest, rfl, beq_self_eq_true byte, behind.mpr ⟨rest, rfl, matched⟩⟩

/-- Every token has bytes of its own, but for a class that is opened at the very end. -/
theorem length_tokens_and_classTokens :
    (∀ pattern, (tokens pattern).length ≤ pattern.length) ∧
      ∀ negated ranges pattern,
        (classTokens negated ranges pattern).length ≤ max 1 pattern.length := by
  apply tokens.mutual_induct
  case case1 => exact Nat.le_refl 0
  case case2 | case3 =>
      intro rest ih
      rw [tokens, List.length_cons, List.length_cons]
      exact Nat.succ_le_succ ih
  case case4 =>
      intro rest ih
      rw [tokens, List.length_cons, List.length_cons]
      omega
  case case5 =>
      intro rest positive ih
      rw [tokens.eq_5 rest positive, List.length_cons]
      omega
  case case6 =>
      intro byte rest ih
      rw [tokens, List.length_cons, List.length_cons, List.length_cons]
      omega
  case case7 =>
      intro byte rest notStar notAny notNegated notClass notEscape ih
      rw [tokens.eq_7 byte rest notStar notAny notNegated notClass notEscape, List.length_cons,
        List.length_cons]
      exact Nat.succ_le_succ ih
  case case8 =>
      intro negated ranges
      exact Nat.le_refl 1
  case case9 =>
      intro negated ranges byte rest ih
      rw [classTokens, List.length_cons, List.length_cons]
      omega
  case case10 =>
      intro negated ranges rest ih
      rw [classTokens, List.length_cons, List.length_cons]
      omega
  case case11 =>
      intro negated ranges low high rest notEscape notClosed ih
      rw [classTokens.eq_4 negated ranges low high rest notEscape notClosed, List.length_cons,
        List.length_cons, List.length_cons]
      omega
  case case12 =>
      intro negated ranges byte rest notEscape notClosed notRange ih
      rw [classTokens.eq_5 negated ranges byte rest notEscape notClosed notRange, List.length_cons]
      omega

theorem length_tokens_le (pattern : List UInt8) : (tokens pattern).length ≤ pattern.length :=
  length_tokens_and_classTokens.1 pattern

theorem length_classTokens_le (negated : Bool) (ranges : List (UInt8 × UInt8))
    (pattern : List UInt8) : (classTokens negated ranges pattern).length ≤ max 1 pattern.length :=
  length_tokens_and_classTokens.2 negated ranges pattern

/-- Outside the classes a byte that is no backslash is a token. -/
theorem tokens_cons {byte : UInt8} (notClass : byte ≠ 91) (notEscape : byte ≠ 92)
    (rest : List UInt8) : ∃ token, tokens (byte :: rest) = token :: tokens rest := by
  by_cases plain : byte ∉ special
  · exact ⟨.literal byte, tokens_plain plain rest⟩
  · simp only [special, List.mem_cons, List.not_mem_nil, or_false, not_not] at plain
    rcases plain with rfl | rfl | same | same
    · exact ⟨.star, tokens.eq_2 rest⟩
    · exact ⟨.anyByte, tokens.eq_3 rest⟩
    · exact absurd same notClass
    · exact absurd same notEscape

theorem length_tokens_class_lt {rest : List UInt8} (closed : rest ≠ []) :
    (tokens (91 :: rest)).length < (91 :: rest).length := by
  cases rest with
  | nil => exact absurd rfl closed
  | cons next rest =>
      by_cases negation : next = 94
      · subst negation
        have bound := length_classTokens_le true [] rest
        rw [tokens, List.length_cons, List.length_cons]
        omega
      · have bound := length_classTokens_le false [] (next :: rest)
        rw [tokens.eq_5 (next :: rest) fun _ same => negation (List.cons.inj same).1]
        simp only [List.length_cons] at bound ⊢
        omega

theorem length_tokens_escape_lt {rest : List UInt8} (closed : rest ≠ []) :
    (tokens (92 :: rest)).length < (92 :: rest).length := by
  cases rest with
  | nil => exact absurd rfl closed
  | cons next rest =>
      have bound := length_tokens_le rest
      rw [tokens, List.length_cons, List.length_cons, List.length_cons]
      omega

/-- A bracket or a backslash in front of something else leaves fewer tokens than bytes. -/
theorem length_tokens_lt {front back : List UInt8} {byte : UInt8}
    (taken : byte = 91 ∨ byte = 92) (closed : back ≠ []) :
    (tokens (front ++ byte :: back)).length < (front ++ byte :: back).length := by
  induction front with
  | nil =>
      rcases taken with rfl | rfl
      · exact length_tokens_class_lt closed
      · exact length_tokens_escape_lt closed
  | cons first front ih =>
      have following : front ++ byte :: back ≠ [] :=
        List.append_ne_nil_of_right_ne_nil front (List.cons_ne_nil byte back)
      by_cases notClass : first = 91
      · subst notClass
        exact length_tokens_class_lt following
      · by_cases notEscape : first = 92
        · subst notEscape
          exact length_tokens_escape_lt following
        · obtain ⟨token, read⟩ := tokens_cons notClass notEscape (front ++ byte :: back)
          rw [List.cons_append, read, List.length_cons, List.length_cons]
          exact Nat.succ_lt_succ ih

theorem star_mem_tokens {front : List UInt8} (single : ∀ byte ∈ front, byte ≠ 91 ∧ byte ≠ 92)
    (back : List UInt8) : Token.star ∈ tokens (front ++ 42 :: back) := by
  induction front with
  | nil =>
      rw [List.nil_append, tokens]
      exact List.mem_cons_self
  | cons first front ih =>
      obtain ⟨notClass, notEscape⟩ := single first List.mem_cons_self
      obtain ⟨token, read⟩ := tokens_cons notClass notEscape (front ++ 42 :: back)
      rw [List.cons_append, read]
      exact List.mem_cons_of_mem token
        (ih fun byte member => single byte (List.mem_cons_of_mem first member))

/-- A pattern that matches its own text, by single bytes, has none but question marks. -/
theorem anyByte_of_mem {front back : List UInt8} {byte : UInt8} (closed : back ≠ [])
    (single : Token.star ∉ tokens (front ++ byte :: back))
    (itself : matchTokens (tokens (front ++ byte :: back)) (front ++ byte :: back) = true) :
    byte = 63 ∨ byte ∉ special := by
  have long := length_of_matchTokens single itself
  have noClass : ∀ other ∈ front, other ≠ 91 ∧ other ≠ 92 := by
    intro other member
    obtain ⟨before, behind, rfl⟩ := List.append_of_mem member
    rw [List.append_assoc, List.cons_append] at long
    have following : behind ++ byte :: back ≠ [] :=
      List.append_ne_nil_of_right_ne_nil behind (List.cons_ne_nil byte back)
    constructor
    · intro taken
      exact Nat.ne_of_lt (length_tokens_lt (.inl taken) following) long
    · intro taken
      exact Nat.ne_of_lt (length_tokens_lt (.inr taken) following) long
  by_cases plain : byte ∈ special
  · simp only [special, List.mem_cons, List.not_mem_nil, or_false] at plain
    rcases plain with rfl | same | taken | taken
    · exact absurd (star_mem_tokens noClass back) single
    · exact .inl same
    · exact absurd long (Nat.ne_of_lt (length_tokens_lt (.inl taken) closed))
    · exact absurd long (Nat.ne_of_lt (length_tokens_lt (.inr taken) closed))
  · exact .inr plain

/-- Where the pattern and the text begin alike, with no more than question marks. -/
theorem matchTokens_same {front : List UInt8} (single : ∀ byte ∈ front, byte = 63 ∨ byte ∉ special)
    (pattern text : List UInt8) :
    matchTokens (tokens (front ++ pattern)) (front ++ text) =
      matchTokens (tokens pattern) text := by
  induction front with
  | nil => rfl
  | cons first front ih =>
      have behind := ih fun byte member => single byte (List.mem_cons_of_mem first member)
      rw [List.cons_append, List.cons_append]
      rcases single first List.mem_cons_self with rfl | plain
      · rw [tokens, matchTokens, behind]
        · rfl
        · exact Token.noConfusion
      · rw [tokens_plain plain, matchTokens, behind]
        · simp only [Token.accepts, beq_self_eq_true, Bool.true_and]
        · exact Token.noConfusion

/-- A question mark does not look at its byte. -/
theorem matchTokens_anyByte {front : List UInt8}
    (single : ∀ byte ∈ front, byte = 63 ∨ byte ∉ special) (back text : List UInt8)
    (byte : UInt8) :
    matchTokens (tokens (front ++ 63 :: back)) (front ++ byte :: text) =
      matchTokens (tokens back) text := by
  rw [matchTokens_same single, tokens, matchTokens]
  · rfl
  · exact Token.noConfusion

end BackendFoundation.Redis
