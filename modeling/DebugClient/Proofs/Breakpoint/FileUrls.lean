import DebugClient.Breakpoint.FileUrl
import Mathlib.Data.List.Basic
/-!
# File URLs — what a written pattern matches

A pattern leaves as text. To say what it matches it is read again
(`Pattern.read?`): escapes stand for their characters, a class for one of its
letters, and a bar parts two alternatives. Anything else with a meaning in
the notation is refused, so what is read matches nothing but what it says.

A text is escaped, and percent escapes are undone, by functions that are
given (`FileUrl.regex?`). Of escaping only that is used which it is for
(`Pattern.Escapes`). The text of a path with a drive is the escaped one with
its first byte replaced by a class; that is sound since the byte is a letter.

The result is `FileUrl.spellings`.
-/

namespace DebugClient

namespace Pattern

/-! ## Letters -/

/-- What holds of the letters of ASCII holds of every letter. -/
theorem of_isAlpha {P : Char → Prop} [DecidablePred P]
    (all : ∀ n < 128, (Char.ofNat n).isAlpha = true → P (Char.ofNat n)) {d : Char}
    (letter : d.isAlpha = true) : P d := by
  have small : d.toNat < 128 := by
    rcases Bool.or_eq_true_iff.1 letter with upper | lower
    · have between : d.val ≥ 'A'.val ∧ d.val ≤ 'Z'.val := of_decide_eq_true upper
      exact Nat.lt_of_le_of_lt between.2 (by decide)
    · have below : decide (d.val ≤ 'z'.val) = true := (Bool.and_eq_true_iff.1 lower).2
      exact Nat.lt_of_le_of_lt (of_decide_eq_true below) (by decide)
  have same := all d.toNat small
  rw [Char.ofNat_toNat] at same
  exact same letter

/-! ## Reading -/

/-- A part of a written pattern. -/
inductive Token where
  /-- One position of a sequence. -/
  | item (i : Item)
  /-- The end of an alternative. -/
  | bar

/-- The parts of a written pattern. Classes are of two letters. -/
def tokens? : List Char → Option (List Token)
  | [] => some []
  | '\\' :: c :: rest => if isMeta c then (tokens? rest).map (.item (.char c) :: ·) else none
  | '[' :: a :: b :: ']' :: rest =>
    if a.isAlpha && b.isAlpha then (tokens? rest).map (.item (.anyOf [a, b]) :: ·) else none
  | '|' :: rest => (tokens? rest).map (.bar :: ·)
  | c :: rest => if isMeta c then none else (tokens? rest).map (.item (.char c) :: ·)

/-- The sequences between the bars. -/
def sequences : List Token → List (List Item)
  | [] => [[]]
  | .bar :: rest => [] :: sequences rest
  | .item i :: rest => (sequences rest).modifyHead (i :: ·)

/-- Reads a written pattern. -/
def read? (text : List Char) : Option Pattern := (tokens? text).map fun ts => ⟨sequences ts⟩

theorem sequences_items (items : List Item) : sequences (items.map .item) = [items] := by
  induction items with
  | nil => rfl
  | cons i rest ih => rw [List.map_cons, sequences, ih]; rfl

theorem sequences_bar (items : List Item) (rest : List Token) :
    sequences (items.map .item ++ .bar :: rest) = items :: sequences rest := by
  induction items with
  | nil => rfl
  | cons i items ih => rw [List.map_cons, List.cons_append, sequences, ih]; rfl

/-- **A text is read as these items** wherever it stands. -/
def Reads (text : List Char) (items : List Item) : Prop :=
  ∀ rest, tokens? (text ++ rest) = (tokens? rest).map (items.map Token.item ++ ·)

theorem reads_nil : Reads [] [] := fun rest => by simp

theorem Reads.append {a b : List Char} {items more : List Item} (first : Reads a items)
    (next : Reads b more) : Reads (a ++ b) (items ++ more) := fun rest => by
  rw [List.append_assoc, first, next, Option.map_map, List.map_append]
  exact congrArg (Option.map · _) (funext fun ts => (List.append_assoc ..).symm)

/-- A class is one position. -/
theorem reads_class {a b : Char} (ha : a.isAlpha = true) (hb : b.isAlpha = true) :
    Reads ['[', a, b, ']'] [.anyOf [a, b]] := fun rest => by
  change tokens? ('[' :: a :: b :: ']' :: rest) = _
  rw [tokens?, ha, hb]
  rfl

/-- An escaped character is itself. -/
theorem reads_escape (c : Char) : Reads (escape c) [.char c] := fun rest => by
  by_cases hm : isMeta c = true
  · rw [escape, if_pos hm]
    change tokens? ('\\' :: c :: rest) = _
    rw [tokens?, if_pos hm]
    rfl
  · -- What has no meaning begins neither an escape nor a class, and is no bar.
    have other : ∀ d, isMeta d = true → c ≠ d := fun d is same => hm (same ▸ is)
    rw [escape, if_neg hm]
    change tokens? (c :: rest) = _
    rw [tokens?, if_neg hm]
    · rfl
    · exact fun _ _ same => absurd same (other '\\' (by decide))
    · exact fun _ _ _ same => absurd same (other '[' (by decide))
    · exact fun same => absurd same (other '|' (by decide))

/-- Two texts with a bar between them are two alternatives. -/
theorem Reads.alternatives {a b : List Char} {items more : List Item} (first : Reads a items)
    (next : Reads b more) : read? (a ++ '|' :: b) = some ⟨[items, more]⟩ := by
  have last : tokens? b = some (more.map .item) := by
    simpa [tokens?] using next []
  have bar : tokens? ('|' :: b) = some (.bar :: more.map .item) := by
    rw [tokens?, last, Option.map_some]
  rw [read?, first, bar, Option.map_some, Option.map_some, sequences_bar, sequences_items]

/-- One of two alternatives matches. -/
theorem matches_alternatives {items more : List Item} {cs : List Char} :
    (⟨[items, more]⟩ : Pattern).Matches cs ↔
      SequenceMatches items cs ∨ SequenceMatches more cs := by
  simp [Matches]

/-! ## Escaping -/

/-- **An escaping**: an escaped text is read as what matches the text and
nothing else, and ASCII letters are left as they are. -/
structure Escapes (escape : List Char → List Char) : Prop where
  /-- It is read as the text. -/
  literal : ∀ cs, ∃ items, Reads (escape cs) items ∧ ∀ ds, SequenceMatches items ds ↔ ds = cs
  /-- A letter is left as it is. -/
  letter : ∀ d cs, d.isAlpha = true → escape (d :: cs) = d :: escape cs

theorem reads_flatMap_escape (cs : List Char) : Reads (cs.flatMap escape) (Pattern.literal cs) := by
  induction cs with
  | nil => exact reads_nil
  | cons c cs ih => exact (reads_escape c).append ih

/-- **Escaping one character after another** is such an escaping. -/
theorem escapes_flatMap : Escapes fun cs => cs.flatMap escape where
  literal cs := ⟨_, reads_flatMap_escape cs, fun _ => sequenceMatches_literal_iff⟩
  letter d cs letter := by
    have plain : isMeta d = false :=
      of_isAlpha (P := fun d => isMeta d = false) (by decide) letter
    rw [List.flatMap_cons, escape, plain]
    rfl

end Pattern

namespace FileUrl

open Pattern (of_isAlpha Reads SequenceMatches)

/-! ## The text of a pattern -/

/-- What a URL of a local script begins with. -/
def scheme (windows : Bool) : List Char :=
  if windows then "file:///".toList else "file://".toList

/-- The path on the disk. -/
def platformPath (windows : Bool) (path : List Char) : List Char :=
  if windows then path.map fun c => if c = '/' then '\\' else c else path

/-- A text from a byte on; none if that is inside a character, or behind the
text. -/
def fromByte? : Nat → List Char → Option (List Char)
  | 0, cs => some cs
  | _ + 1, [] => none
  | n + 1, c :: cs => if c.utf8Size ≤ n + 1 then fromByte? (n + 1 - c.utf8Size) cs else none

/-- The text of a pattern, made of the escaped path and the escaped URL: where
the path begins with a drive, the first byte gives way to a class of both
letters. There is none where the text cannot be cut there. -/
def text? (escape : List Char → List Char) (windows : Bool) (path url : List Char) :
    Option (List Char) :=
  let text := escape path ++ '|' :: escape url
  match path with
  | d :: ':' :: '\\' :: _ =>
    if windows && d.isAlpha then
      (fromByte? 1 text).map fun rest => '[' :: d.toUpper :: d.toLower :: ']' :: rest
    else some text
  | _ => some text

/-- The pattern of a URL, if it has one, and its text, if the cut can be
made. -/
def regex? (decode escape : List Char → List Char) (windows : Bool) (url : List Char) :
    Option (Option (List Char)) :=
  (behind? (scheme windows) (decode url)).map fun behind =>
    text? escape windows (platformPath windows behind) url

/-- The other case of a letter. -/
def otherCase (d : Char) : Char := if d.isUpper then d.toLower else d.toUpper

/-- **A spelling of a path**: the path, or, on Windows, the path with its
drive in the other case. -/
def Spells (windows : Bool) (path cs : List Char) : Prop :=
  cs = path ∨ windows = true ∧ ∃ d rest, d.isAlpha = true ∧ path = d :: ':' :: '\\' :: rest ∧
    cs = otherCase d :: ':' :: '\\' :: rest

/-! ## What is behind the scheme -/

theorem behind?_append (beginning rest : List Char) :
    behind? beginning (beginning ++ rest) = some rest := by
  simp [behind?]

theorem behind?_eq_none_iff {beginning text : List Char} :
    behind? beginning text = none ↔ ¬ beginning <+: text := by
  simp [behind?]

theorem path?_eq (windows : Bool) (url : List Char) :
    path? windows url =
      (behind? (scheme windows) (Percent.decode url)).map (platformPath windows) := by
  cases windows
  · exact (Option.map_id' ).symm
  · rfl

/-! ## The drive -/

/-- A letter is one byte, so a text is cut behind it. -/
theorem fromByte?_letter {d : Char} (letter : d.isAlpha = true) (rest : List Char) :
    fromByte? 1 (d :: rest) = some rest := by
  have one : d.utf8Size = 1 := of_isAlpha (P := fun d => d.utf8Size = 1) (by decide) letter
  simp [fromByte?, one]

theorem mem_cases {d c : Char} (letter : d.isAlpha = true) :
    c ∈ [d.toUpper, d.toLower] ↔ c = d ∨ c = otherCase d := by
  have both : d.toUpper = d ∧ d.toLower = otherCase d ∨ d.toUpper = otherCase d ∧ d.toLower = d :=
    of_isAlpha (P := fun d => d.toUpper = d ∧ d.toLower = otherCase d ∨
      d.toUpper = otherCase d ∧ d.toLower = d) (by decide) letter
  rw [List.mem_pair]
  obtain ⟨upper, lower⟩ | ⟨upper, lower⟩ := both
  · rw [upper, lower]
  · rw [upper, lower, or_comm]

theorem drive?_eq_some_iff {path : List Char} {d : Char} :
    drive? path = some d ↔ d.isAlpha = true ∧ ∃ rest, path = d :: ':' :: '\\' :: rest := by
  constructor
  · intro found
    unfold drive? at found
    split at found
    · split at found
      · cases found
        exact ⟨‹_›, _, rfl⟩
      · nomatch found
    · nomatch found
  · rintro ⟨letter, rest, rfl⟩
    rw [drive?, if_pos letter]

/-- **Paths are of two kinds**: those with a drive on Windows, and the
others, whose text is not cut and which have one spelling. -/
theorem drive_cases (windows : Bool) (path : List Char) :
    (∃ d rest, windows = true ∧ d.isAlpha = true ∧ path = d :: ':' :: '\\' :: rest) ∨
      (∀ escape url, text? escape windows path url = some (escape path ++ '|' :: escape url)) ∧
      pathItems windows path = Pattern.literal path ∧
      ∀ cs, Spells windows path cs ↔ cs = path := by
  by_cases drive : ∃ d rest, windows = true ∧ d.isAlpha = true ∧ path = d :: ':' :: '\\' :: rest
  · exact .inl drive
  · refine .inr ⟨fun escape url => ?_, ?_, fun cs => or_iff_left ?_⟩
    · unfold text?
      split
      · rename_i d rest
        exact if_neg fun is => drive ⟨d, rest, by simpa using is⟩
      · rfl
    · rw [pathItems]
      split
      · rename_i d found
        obtain ⟨letter, rest, same⟩ := drive?_eq_some_iff.mp found
        exact if_neg fun is => drive ⟨d, rest, is, letter, same⟩
      · rfl
    · rintro ⟨is, d, rest, letter, same, -⟩
      exact drive ⟨d, rest, is, letter, same⟩

/-- The text of a path with a drive. -/
theorem text?_drive {escape : List Char → List Char} (escapes : Pattern.Escapes escape) {d : Char}
    (letter : d.isAlpha = true) (rest url : List Char) :
    text? escape true (d :: ':' :: '\\' :: rest) url =
      some (['[', d.toUpper, d.toLower, ']'] ++ escape (':' :: '\\' :: rest) ++
        '|' :: escape url) := by
  simp [text?, letter, escapes.letter d _ letter, fromByte?_letter letter]

/-- The sequence of a path with a drive. -/
theorem pathItems_drive {d : Char} (letter : d.isAlpha = true) (rest : List Char) :
    pathItems true (d :: ':' :: '\\' :: rest) =
      .anyOf [d.toUpper, d.toLower] :: Pattern.literal (':' :: '\\' :: rest) := by
  rw [pathItems, drive?_eq_some_iff.mpr ⟨letter, rest, rfl⟩]
  rfl

/-- A path with a drive has two spellings. -/
theorem spells_drive {d : Char} (letter : d.isAlpha = true) (rest cs : List Char) :
    Spells true (d :: ':' :: '\\' :: rest) cs ↔
      ∃ c ∈ [d.toUpper, d.toLower], cs = c :: ':' :: '\\' :: rest := by
  simp only [Spells, mem_cases letter, or_and_right, exists_or, exists_eq_left]
  refine or_congr_right ⟨?_, fun other => ⟨trivial, d, rest, letter, rfl, other⟩⟩
  rintro ⟨-, d', rest', -, same, other⟩
  cases same
  exact other

/-! ## What the parts match -/

/-- A class before a sequence. -/
theorem sequenceMatches_anyOf {letters : List Char} {items : List Pattern.Item}
    {text cs : List Char} (next : ∀ ds, SequenceMatches items ds ↔ ds = text) :
    SequenceMatches (.anyOf letters :: items) cs ↔ ∃ c ∈ letters, cs = c :: text := by
  cases cs with
  | nil => simp [SequenceMatches]
  | cons c cs =>
    rw [SequenceMatches, next, Pattern.Item.Matches]
    constructor
    · rintro ⟨among, rfl⟩
      exact ⟨c, among, rfl⟩
    · rintro ⟨letter, among, same⟩
      obtain ⟨rfl, rfl⟩ := List.cons.inj same
      exact ⟨among, rfl⟩

/-- The sequence of a path matches its spellings. -/
theorem sequenceMatches_pathItems {windows : Bool} {path cs : List Char} :
    SequenceMatches (pathItems windows path) cs ↔ Spells windows path cs := by
  obtain ⟨d, rest, rfl, letter, rfl⟩ | ⟨-, items, spells⟩ := drive_cases windows path
  · rw [pathItems_drive letter, spells_drive letter]
    exact sequenceMatches_anyOf fun ds => Pattern.sequenceMatches_literal_iff
  · rw [items, spells, Pattern.sequenceMatches_literal_iff]

/-- **The text of a path** is there, and is read as what matches its
spellings. -/
theorem text?_reads {escape : List Char → List Char} (escapes : Pattern.Escapes escape)
    (windows : Bool) (path url : List Char) :
    ∃ front items, text? escape windows path url = some (front ++ '|' :: escape url) ∧
      Reads front items ∧ ∀ cs, SequenceMatches items cs ↔ Spells windows path cs := by
  obtain ⟨d, rest, rfl, letter, rfl⟩ | ⟨text, -, spells⟩ := drive_cases windows path
  · obtain ⟨items, reads, matching⟩ := escapes.literal (':' :: '\\' :: rest)
    have upper : d.toUpper.isAlpha = true :=
      of_isAlpha (P := fun d => d.toUpper.isAlpha = true) (by decide) letter
    have lower : d.toLower.isAlpha = true :=
      of_isAlpha (P := fun d => d.toLower.isAlpha = true) (by decide) letter
    exact ⟨_, _, text?_drive escapes letter rest url,
      (Pattern.reads_class upper lower).append reads,
      fun cs => (sequenceMatches_anyOf matching).trans (spells_drive letter rest cs).symm⟩
  · obtain ⟨items, reads, matching⟩ := escapes.literal path
    exact ⟨_, _, text escape url, reads, fun cs => (matching cs).trans (spells cs).symm⟩

/-- The notation of a literal is the escaped text. -/
theorem text_literal (cs : List Char) :
    (Pattern.literal cs).flatMap Pattern.Item.text = cs.flatMap Pattern.escape :=
  List.flatMap_map ..

/-- The notation of a path's sequence stands in front of the bar. -/
theorem text?_pathItems (windows : Bool) (path url : List Char) :
    text? (fun cs => cs.flatMap Pattern.escape) windows path url =
      some ((pathItems windows path).flatMap Pattern.Item.text ++
        '|' :: url.flatMap Pattern.escape) := by
  obtain ⟨d, rest, rfl, letter, rfl⟩ | ⟨text, items, -⟩ := drive_cases windows path
  · rw [text?_drive Pattern.escapes_flatMap letter, pathItems_drive letter, ← text_literal]
    rfl
  · rw [text, items, text_literal]

/-- What is sent is such a text. -/
theorem text_pattern? (windows : Bool) (url : String) :
    (pattern? windows url).map (fun p => some p.text.toList) =
      regex? Percent.decode (fun cs => cs.flatMap Pattern.escape) windows url.toList := by
  rw [pattern?, path?_eq, regex?, Option.map_map, Option.map_map]
  refine congrArg (Option.map · _) (funext fun behind => ?_)
  rw [text?_pathItems]
  simp [Pattern.text, text_literal]

/-! ## The result -/

/-- **File URLs**: whatever undoes percent escapes and whatever escapes
texts, there is no pattern exactly for the URLs that do not, with their
percent escapes undone, begin with the scheme. For the others the cut is
inside the text and between two characters, and the text is read as a pattern
that matches, as a whole, the URL, the path on the disk, and, for a path with
a drive, the path with the drive in the other case; nothing else.

The pattern of this program is written as such a text, and matches the
same. -/
theorem spellings {escape : List Char → List Char} (escapes : Pattern.Escapes escape)
    (decode : List Char → List Char) (windows : Bool) (url : String) :
    (regex? decode escape windows url.toList = none ↔
        ¬ scheme windows <+: decode url.toList) ∧
      (∀ behind, decode url.toList = scheme windows ++ behind →
        ∃ text p, regex? decode escape windows url.toList = some (some text) ∧
          Pattern.read? text = some p ∧
          ∀ cs, p.Matches cs ↔ cs = url.toList ∨ Spells windows (platformPath windows behind) cs) ∧
      (pattern? windows url).map (fun p => some p.text.toList) =
        regex? Percent.decode (fun cs => cs.flatMap Pattern.escape) windows url.toList ∧
      ∀ p, pattern? windows url = some p → ∀ behind,
        Percent.decode url.toList = scheme windows ++ behind →
        ∀ cs, p.Matches cs ↔ cs = url.toList ∨ Spells windows (platformPath windows behind) cs := by
  refine ⟨?_, fun behind decoded => ?_, text_pattern? windows url, fun p made behind decoded cs => ?_⟩
  · rw [regex?, Option.map_eq_none_iff, behind?_eq_none_iff]
  · obtain ⟨front, items, written, first, path⟩ :=
      text?_reads escapes windows (platformPath windows behind) url.toList
    obtain ⟨more, next, itself⟩ := escapes.literal url.toList
    refine ⟨_, _, ?_, first.alternatives next, fun cs => ?_⟩
    · rw [regex?, decoded, behind?_append, Option.map_some, written]
    · rw [Pattern.matches_alternatives, path, itself, or_comm]
  · rw [pattern?, path?_eq, decoded, behind?_append, Option.map_some, Option.map_some,
      Option.some.injEq] at made
    rw [← made, Pattern.matches_alternatives, sequenceMatches_pathItems,
      Pattern.sequenceMatches_literal_iff, or_comm]

/-- A script on a drive is matched by its path with the drive in the other
case. -/
theorem spellings_drive :
    Pattern.Escapes (fun cs => cs.flatMap Pattern.escape) ∧
      Percent.decode "file:///c:/src/app.js".toList = scheme true ++ "c:/src/app.js".toList ∧
      ∃ text p, regex? Percent.decode (fun cs => cs.flatMap Pattern.escape) true
          "file:///c:/src/app.js".toList = some (some text) ∧
        Pattern.read? text = some p ∧ p.Matches "C:\\src\\app.js".toList := by
  have decoded : Percent.decode "file:///c:/src/app.js".toList =
      scheme true ++ "c:/src/app.js".toList := by decide +kernel
  obtain ⟨text, p, written, read, matching⟩ :=
    (spellings Pattern.escapes_flatMap Percent.decode true "file:///c:/src/app.js").2.1 _ decoded
  exact ⟨Pattern.escapes_flatMap, decoded, text, p, written, read,
    (matching _).mpr (.inr (.inr ⟨rfl, 'c', "src\\app.js".toList, by decide⟩))⟩

-- A path that begins with no drive keeps its first character, also one of several bytes.
example : regex? Percent.decode (fun cs => cs.flatMap Pattern.escape) true
    "file:///é:/app.js".toList = some (some "é:\\\\app\\.js|file:///é:/app\\.js".toList) := by
  decide +kernel

end FileUrl

end DebugClient
