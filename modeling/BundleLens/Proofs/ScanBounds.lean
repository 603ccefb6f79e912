/-
Module: BundleLens.Proofs.ScanBounds
Layer: Proofs
Purpose: Reading tokens never leaves a text. What is left to read is described by a position and the
  text from there on; if that much fits into a range, then it still does after every step of reading, so
  every token starts and ends in the range.
Imports: BundleLens.Token.Scan
Main exports: byteCount_cons, byteCount_append, Remaining.Inside, Lexeme.Inside, scanToken_inside,
  scanRegex_inside, scanTemplate_inside, skipHashbang_inside
-/
import BundleLens.Token.Scan

namespace BundleLens

open Text

/-! ### Sizes of texts -/

theorem byteSize_pos (c : Char) : 1 ≤ byteSize c := c.utf8Size_pos

theorem foldl_byteSize (text : List Char) (n : Nat) :
    text.foldl (fun n c => n + byteSize c) n = n + byteCount text := by
  unfold byteCount
  induction text generalizing n with
  | nil => rfl
  | cons c rest ih =>
      rw [List.foldl_cons, List.foldl_cons, ih, ih (0 + byteSize c)]
      omega

@[simp] theorem byteCount_nil : byteCount [] = 0 := rfl

@[simp] theorem byteCount_cons (c : Char) (rest : List Char) :
    byteCount (c :: rest) = byteSize c + byteCount rest := by
  rw [← Nat.zero_add (byteSize c), ← foldl_byteSize rest (0 + byteSize c)]
  rfl

@[simp] theorem byteCount_append (text rest : List Char) :
    byteCount (text ++ rest) = byteCount text + byteCount rest := by
  induction text with
  | nil => simp
  | cons c more ih =>
      simp only [List.cons_append, byteCount_cons, ih]
      omega

theorem length_le_byteCount (text : List Char) : text.length ≤ byteCount text := by
  induction text with
  | nil => exact Nat.le_refl _
  | cons c rest ih =>
      have size := byteSize_pos c
      simp only [List.length_cons, byteCount_cons]
      omega

/-! ### What is left to read -/

/-- What is left to read starts and ends in a range. -/
structure Remaining.Inside (room : Span) (rest : Remaining) : Prop where
  lo : room.lo ≤ rest.pos
  hi : rest.pos + byteCount rest.text ≤ room.hi

/-- A token starts and ends in a range, and so does what is left behind it. -/
structure Lexeme.Inside (room : Span) (lexeme : Lexeme) : Prop where
  start : Remaining.Inside room ⟨lexeme.source, lexeme.span.lo⟩
  behind : Remaining.Inside room ⟨lexeme.rest, lexeme.span.hi⟩

variable {room : Span} {text rest : List Char} {pos : Nat} {c : Char}

namespace Remaining.Inside

theorem contains {left : Remaining} (inside : left.Inside room) : room.contains left.pos = true := by
  obtain ⟨lo, hi⟩ := inside
  unfold Span.contains
  rw [Bool.and_eq_true, decide_eq_true_eq, decide_eq_true_eq]
  omega

theorem step {n : Nat} (inside : Inside room ⟨c :: rest, pos⟩) (size : n ≤ byteSize c) :
    Inside room ⟨rest, pos + n⟩ := by
  obtain ⟨lo, hi⟩ := inside
  rw [byteCount_cons] at hi
  simp only at lo hi
  constructor <;> simp only <;> omega

/-- No character takes less than one position. -/
theorem one (inside : Inside room ⟨c :: rest, pos⟩) : Inside room ⟨rest, pos + 1⟩ :=
  inside.step (byteSize_pos c)

theorem char (inside : Inside room ⟨c :: rest, pos⟩) : Inside room ⟨rest, pos + byteSize c⟩ :=
  inside.step (Nat.le_refl _)

theorem behind {left : Remaining} (inside : left.Inside room) (read : left.text = c :: rest) :
    Inside room ⟨rest, left.pos + 1⟩ := by
  obtain ⟨text, pos⟩ := left
  cases read
  exact inside.one

theorem drop {n : Nat} (inside : Inside room ⟨text, pos⟩) (short : n ≤ text.length) :
    Inside room ⟨text.drop n, pos + n⟩ := by
  obtain ⟨lo, hi⟩ := inside
  have parts := byteCount_append (text.take n) (text.drop n)
  have size := length_le_byteCount (text.take n)
  rw [List.take_append_drop] at parts
  rw [List.length_take, Nat.min_eq_left short] at size
  simp only at lo hi
  constructor <;> simp only <;> omega

theorem dropWhile {keep : Char → Bool} (inside : Inside room ⟨text, pos⟩) :
    Inside room ⟨text.drop (text.takeWhile keep).length, pos + byteCount (text.takeWhile keep)⟩ := by
  obtain ⟨lo, hi⟩ := inside
  have parts := byteCount_append (text.takeWhile keep) (text.dropWhile keep)
  rw [List.takeWhile_append_dropWhile] at parts
  have behind : text.drop (text.takeWhile keep).length = text.dropWhile keep := by
    conv => lhs; arg 2; rw [← List.takeWhile_append_dropWhile (p := keep) (l := text)]
    exact List.drop_left
  rw [behind]
  simp only at lo hi
  constructor <;> simp only <;> omega

end Remaining.Inside

open Remaining (Inside)

/-- What stands behind a gap between tokens. -/
theorem skipGap_inside (gap : Gap) (newline : Bool) (inside : Inside room ⟨text, pos⟩) :
    Inside room ⟨(skipGap gap text pos newline).1, (skipGap gap text pos newline).2.1⟩ := by
  fun_induction skipGap gap text pos newline with
  | case1 rest pos newline ih => exact ih inside.one.one
  | case2 rest pos newline ih => exact ih inside.one.one
  | case3 rest pos newline ih => exact ih inside.one.one.one.one
  | case4 rest pos ih => exact ih inside.one.one.one
  | _ => grind [Inside.char, Inside.one]

/-! ### Escapes -/

theorem hexRun_inside {count value : Nat} {found : Nat × Remaining}
    (inside : Inside room ⟨text, pos⟩) (run : hexRun count text pos value = some found) :
    found.2.Inside room := by
  fun_induction hexRun count text pos value with
  | case1 =>
      cases run
      exact inside
  | case3 _ _ _ _ _ _ _ ih => exact ih inside.one run
  | _ => cases run

theorem hexBraced_inside {value : Nat} {found : Nat × Remaining}
    (inside : Inside room ⟨text, pos⟩) (run : hexBraced text pos value = some found) :
    found.2.Inside room := by
  fun_induction hexBraced text pos value with
  | case1 =>
      cases run
      exact inside.one
  | case2 _ _ _ _ _ _ _ ih => exact ih inside.one run
  | _ => cases run

theorem unicodeEscape_inside {found : Nat × Remaining} (inside : Inside room ⟨text, pos⟩)
    (run : unicodeEscape text pos = some found) : found.2.Inside room := by
  unfold unicodeEscape at run
  split at run
  · cases run
  · exact hexBraced_inside inside.one (Option.filter_eq_some_iff.1 run).1
  · exact hexRun_inside inside run

theorem octalRun_inside {count value : Nat} (inside : Inside room ⟨text, pos⟩) :
    (octalRun count text pos value).2.Inside room := by
  fun_induction octalRun count text pos value with
  | case2 _ _ _ _ _ _ _ _ ih => exact ih inside.one
  | _ => exact inside

theorem escapeValue_inside {found : List Nat × Remaining} (inside : Inside room ⟨text, pos⟩)
    (run : escapeValue text pos = some found) : found.2.Inside room := by
  unfold escapeValue at run
  split at run
  · cases run
  · cases run
    exact inside.one.one
  · obtain ⟨escape, read, rfl⟩ := Option.map_eq_some_iff.1 run
    exact hexRun_inside inside.one read
  · obtain ⟨escape, read, rfl⟩ := Option.map_eq_some_iff.1 run
    exact unicodeEscape_inside inside.one read
  · split at run
    · cases run
      exact inside.char
    · split at run
      · cases run
        exact inside.one
      · cases run
        exact octalRun_inside inside.one
      · cases run
        exact inside.char

/-! ### Tokens -/

theorem identRun_inside {fuel : Nat} {acc : List Char} {escaped : Bool}
    (inside : Inside room ⟨text, pos⟩) : (identRun fuel text pos acc escaped).2.2.Inside room := by
  fun_induction identRun fuel text pos acc escaped with
  | case2 _ _ _ _ _ _ _ escape _ ih => exact ih (unicodeEscape_inside inside.one.one escape)
  | case5 _ _ _ _ _ _ _ _ ih => exact ih inside.char
  | _ => exact inside

theorem stringRun_inside {quote : Char} {fuel : Nat} {plain acc : List Nat}
    {found : List Nat × Remaining} (inside : Inside room ⟨text, pos⟩)
    (run : stringRun quote fuel text pos plain acc = .ok found) : found.2.Inside room := by
  fun_induction stringRun quote fuel text pos plain acc with
  | case2 =>
      cases run
      exact inside
  | case3 _ _ _ _ _ _ _ escape ih => exact ih (escapeValue_inside inside.one escape) run
  | case5 =>
      cases run
      exact inside.one
  | case6 =>
      cases run
      exact inside
  | case7 _ _ _ _ _ _ _ _ _ ih => exact ih inside.char run
  | _ => cases run

theorem digitRun_inside {base value count : Nat} (inside : Inside room ⟨text, pos⟩) :
    (digitRun base text pos value count).rest.Inside room := by
  fun_induction digitRun base text pos value count with
  | case2 _ _ _ _ ih => exact ih inside.one
  | case3 _ _ _ _ _ _ _ _ _ ih => exact ih inside.one
  | _ => exact inside

theorem exponentRun_inside {start : Remaining} {found : Int × Remaining}
    (inside : start.Inside room) (run : exponentRun start = .ok found) : found.2.Inside room := by
  obtain ⟨text, pos⟩ := start
  -- Whatever sign the exponent has, its digits stand behind the mark.
  have digits : ∀ {digits : Digits} {value : Int}, digits.rest.Inside room →
      (if digits.count = 0 then Except.error digits.rest.pos else .ok (value, digits.rest)) =
        .ok found →
      found.2.Inside room := by
    intro digits value behind read
    split at read
    · cases read
    · cases read
      exact behind
  unfold exponentRun at run
  cases text with
  | nil =>
      cases run
      exact inside
  | cons c rest =>
      simp only at run
      split at run
      · split at run
        · exact digits (digitRun_inside inside.one.one) run
        · exact digits (digitRun_inside inside.one.one) run
        · exact digits (digitRun_inside inside.one) run
      · cases run
        exact inside

theorem map_exponentRun_inside {start : Remaining} {f : Int → Token} {found : Token × Remaining}
    (inside : start.Inside room)
    (run : (exponentRun start).map (fun part => (f part.1, part.2)) = .ok found) :
    found.2.Inside room := by
  cases read : exponentRun start with
  | error place =>
      rw [read] at run
      cases run
  | ok part =>
      rw [read] at run
      cases run
      exact exponentRun_inside inside read

theorem decimalNumber_inside {found : Token × Remaining} (inside : Inside room ⟨text, pos⟩)
    (run : decimalNumber text pos = .ok found) : found.2.Inside room := by
  have whole : (digitRun 10 text pos 0 0).rest.Inside room := digitRun_inside inside
  unfold decimalNumber at run
  simp only at run
  split at run
  · rename_i more read
    cases run
    exact whole.behind read
  · rename_i more read
    exact map_exponentRun_inside (f := fun e => .number (.ofDecimal _ (e - _)))
      (digitRun_inside (whole.behind read)) run
  · exact map_exponentRun_inside (f := fun e => .number (.ofDecimal _ e)) whole run

theorem basedNumber_inside {base : Nat} {found : Token × Remaining} (inside : Inside room ⟨text, pos⟩)
    (run : basedNumber base text pos = .ok found) : found.2.Inside room := by
  have digits : (digitRun base text pos 0 0).rest.Inside room := digitRun_inside inside
  unfold basedNumber at run
  simp only at run
  split at run
  · cases run
  · split at run
    · rename_i more read
      cases run
      exact digits.behind read
    · cases run
      exact digits

theorem legacyNumber_inside {found : Token × Remaining} (inside : Inside room ⟨text, pos⟩)
    (run : legacyNumber text pos = .ok found) : found.2.Inside room := by
  unfold legacyNumber at run
  split at run
  · cases run
    exact digitRun_inside inside
  · exact decimalNumber_inside inside run

theorem numberToken_inside {found : Token × Remaining} (inside : Inside room ⟨text, pos⟩)
    (run : numberToken text pos = .ok found) : found.2.Inside room := by
  unfold numberToken at run
  split at run
  · split at run
    · exact basedNumber_inside inside.one.one run
    · split at run
      · exact basedNumber_inside inside.one.one run
      · split at run
        · exact basedNumber_inside inside.one.one run
        · split at run
          · exact legacyNumber_inside inside run
          · exact decimalNumber_inside inside run
  · exact decimalNumber_inside inside run

theorem punctToken_inside {found : Token × Remaining} (inside : Inside room ⟨text, pos⟩)
    (run : punctToken text pos = some found) : found.2.Inside room := by
  unfold punctToken at run
  split at run
  · split at run
    · cases run
      exact inside.one
    · cases run
      exact inside.one.one
  · obtain ⟨mark, search, rfl⟩ := Option.map_eq_some_iff.1 run
    have fits : mark.isPrefixOf text = true := by simpa using List.find?_some search
    exact inside.drop (List.isPrefixOf_iff_prefix.1 fits).length_le

/-- What is left behind a token. A faulty one takes one character. -/
theorem tokenAt_inside (size : Nat) (inside : Inside room ⟨text, pos⟩) :
    (tokenAt size text pos).2.Inside room := by
  unfold tokenAt
  split
  · exact inside
  · split
    · exact identRun_inside inside
    · split
      · split
        · rename_i token more read
          split
          · exact inside.char
          · exact numberToken_inside inside read
        · exact inside.char
      · split
        · split
          · rename_i points more read
            exact stringRun_inside inside.one read
          · exact inside.char
        · split
          · exact inside.one
          · split
            · exact identRun_inside inside.one
            · split
              · rename_i token more read
                exact punctToken_inside inside read
              · exact inside.char

/-- A token that is read from what is left stands there, and so does the rest. -/
theorem scanToken_inside (size : Nat) (inside : Inside room ⟨text, pos⟩) :
    (scanToken size text pos).Inside room := by
  have start := skipGap_inside .between false inside
  exact ⟨start, tokenAt_inside size start⟩

/-! ### What is not read token by token -/

theorem regexRun_inside {inClass : Bool} {found : Remaining} (inside : Inside room ⟨text, pos⟩)
    (run : regexRun inClass text pos = some found) : found.Inside room := by
  fun_induction regexRun inClass text pos with
  | case3 _ _ _ _ _ ih => exact ih inside.one.char run
  | case5 =>
      cases run
      exact inside.one.dropWhile
  | case6 _ _ _ _ _ _ _ ih => exact ih inside.char run
  | _ => cases run

theorem scanRegex_inside {lexeme : Lexeme} {found : Remaining} (inside : lexeme.Inside room)
    (run : scanRegex lexeme = some found) : found.Inside room := by
  unfold scanRegex at run
  have start := inside.start
  cases source : lexeme.source with
  | nil =>
      rw [source] at run
      cases run
  | cons c rest =>
      rw [source] at run start
      exact regexRun_inside start.one run

theorem scanTemplate_inside {fault : Option Nat} {part : TemplatePart}
    (inside : Inside room ⟨text, pos⟩) (run : scanTemplate text pos fault = some part) :
    part.rest.Inside room := by
  fun_induction scanTemplate text pos fault with
  | case2 _ _ _ _ _ ih => exact ih inside.one.char run
  | case3 =>
      cases run
      exact inside.one
  | case4 =>
      cases run
      exact inside.one.one
  | case5 _ _ _ _ _ _ _ ih => exact ih inside.char run
  | _ => cases run

theorem skipHashbang_inside (inside : Inside room ⟨text, pos⟩) :
    (skipHashbang text pos).Inside room := by
  unfold skipHashbang
  split
  · exact inside.one.one.dropWhile
  · exact inside

end BundleLens
