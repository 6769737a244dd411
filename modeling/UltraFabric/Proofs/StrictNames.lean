/-
# UltraFabric.Proofs.StrictNames — names that are cut by bytes

The names of tiles and wires are cut at positions that are found by looking for a character or by counting
from the end, and all positions are numbers of bytes.  Such a cut may leave the text or fall inside a
character, and then there is no answer.  The functions here cut in this way and end in a fault where they
cannot.

For the names of tiles they give the very answers of the functions that cut lists of characters: a
character that is found begins where it is found, the marks that are looked for take one byte each, and
the byte that tells the side of a fence is a letter only if it is all of a character
(`Strict.wireName_eq`).  The site of a switch is another matter.  It ends two bytes before the name of the
wire does, whatever stands there; `Image.site?_eq_none_iff` says when that is inside a character.  It never
is when each character takes one byte, and names of wires stay that way (`Text.Narrow.wireName`).
-/
import UltraFabric.Image
import UltraFabric.Proofs.Switches

namespace UltraFabric

set_option autoImplicit false

namespace Text

/-! ### Bytes -/

theorem byteCount_append (start rest : List Char) :
    byteCount (start ++ rest) = byteCount start + byteCount rest := by
  induction start with
  | nil => rw [List.nil_append, byteCount, Nat.zero_add]
  | cons c more ih => rw [List.cons_append, byteCount, byteCount, ih, Nat.add_assoc]

theorem takeBytes_cons {c : Char} {count : ℕ} (fits : c.utf8Size ≤ count) (rest : List Char) :
    takeBytes count (c :: rest) = (takeBytes (count - c.utf8Size) rest).map (c :: ·) := by
  have size := c.utf8Size_pos
  cases count with
  | zero => omega
  | succ count => rw [takeBytes, if_pos fits]

theorem takeBytes_cons_of_lt {c : Char} {count : ℕ} (positive : 0 < count)
    (split : count < c.utf8Size) (rest : List Char) : takeBytes count (c :: rest) = none := by
  cases count with
  | zero => omega
  | succ count => rw [takeBytes, if_neg (by omega)]

/-- A text is cut where some of its characters end. -/
theorem takeBytes_append (start rest : List Char) :
    takeBytes (byteCount start) (start ++ rest) = some start := by
  induction start with
  | nil => rw [byteCount, takeBytes]
  | cons c more ih =>
      rw [byteCount, List.cons_append, takeBytes_cons (Nat.le_add_right _ _), Nat.add_sub_cancel_left,
        ih, Option.map_some]

theorem dropBytes_append (start rest : List Char) :
    dropBytes (byteCount start) (start ++ rest) = some rest := by
  rw [dropBytes, takeBytes_append, Option.map_some, List.drop_left]

/-- A text is cut inside a character when some of its characters end less than this character before
the cut. -/
theorem takeBytes_append_of_lt (start rest : List Char) {c : Char} {more : ℕ} (positive : 0 < more)
    (split : more < c.utf8Size) : takeBytes (byteCount start + more) (start ++ c :: rest) = none := by
  induction start with
  | nil => rw [byteCount, Nat.zero_add, List.nil_append, takeBytes_cons_of_lt positive split]
  | cons d start ih =>
      rw [byteCount, List.cons_append, takeBytes_cons (by omega), Nat.add_assoc,
        Nat.add_sub_cancel_left, ih, Option.map_none]

/-- The bytes of a text. -/
def bytes (text : List Char) : List UInt8 :=
  text.flatMap String.utf8EncodeChar

theorem length_bytes (text : List Char) : (bytes text).length = byteCount text := by
  induction text with
  | nil => rfl
  | cons c rest ih =>
      rw [bytes, List.flatMap_cons, List.length_append, String.length_utf8EncodeChar, byteCount, ← ih,
        bytes]

/-- A character of more than one byte has none that is a character by itself. -/
theorem le_of_mem_utf8EncodeChar {c : Char} (wide : 1 < c.utf8Size) :
    ∀ byte ∈ String.utf8EncodeChar c, 128 ≤ byte.toNat := by
  have large : ¬ c.val.toNat ≤ 127 := fun small =>
    absurd (Char.utf8Size_eq_one_iff.2 (UInt32.le_iff_toNat_le.2 small)) (by omega)
  intro byte member
  unfold String.utf8EncodeChar at member
  simp only [if_neg large] at member
  split at member
  · simp only [List.mem_cons, List.not_mem_nil, or_false] at member
    rcases member with rfl | rfl <;> simp only [UInt8.toNat_ofNat'] <;> omega
  split at member
  · simp only [List.mem_cons, List.not_mem_nil, or_false] at member
    rcases member with rfl | rfl | rfl <;> simp only [UInt8.toNat_ofNat'] <;> omega
  · simp only [List.mem_cons, List.not_mem_nil, or_false] at member
    rcases member with rfl | rfl | rfl | rfl <;> simp only [UInt8.toNat_ofNat'] <;> omega

/-! ### Looking for a character -/

/-- Where a character is first, in bytes. -/
def firstPosition? (c : Char) : List Char → Option ℕ
  | [] => none
  | d :: rest => if d = c then some 0 else (firstPosition? c rest).map (d.utf8Size + ·)

/-- Where a character is last, in bytes. -/
def lastPosition? (c : Char) : List Char → Option ℕ
  | [] => none
  | d :: rest =>
    match lastPosition? c rest with
    | some position => some (d.utf8Size + position)
    | none => if d = c then some 0 else none

/-- What stands between two positions. -/
def slice? (first last : ℕ) (text : List Char) : Option (List Char) :=
  if first ≤ last then (takeBytes last text).bind (dropBytes first) else none

variable {c : Char}

theorem firstPosition?_append {start : List Char} (absent : c ∉ start) (rest : List Char) :
    firstPosition? c (start ++ c :: rest) = some (byteCount start) := by
  induction start with
  | nil => rw [List.nil_append, firstPosition?, if_pos rfl, byteCount]
  | cons d start ih =>
      obtain ⟨different, absent⟩ := not_or.1 (mt List.mem_cons.2 absent)
      rw [List.cons_append, firstPosition?, if_neg (Ne.symm different), ih absent, Option.map_some,
        byteCount]

theorem firstPosition?_eq_none {text : List Char} (absent : c ∉ text) :
    firstPosition? c text = none := by
  induction text with
  | nil => rfl
  | cons d rest ih =>
      obtain ⟨different, absent⟩ := not_or.1 (mt List.mem_cons.2 absent)
      rw [firstPosition?, if_neg (Ne.symm different), ih absent, Option.map_none]

theorem lastPosition?_eq_none {text : List Char} (absent : c ∉ text) :
    lastPosition? c text = none := by
  induction text with
  | nil => rfl
  | cons d rest ih =>
      obtain ⟨different, absent⟩ := not_or.1 (mt List.mem_cons.2 absent)
      rw [lastPosition?, ih absent]
      exact if_neg (Ne.symm different)

theorem lastPosition?_append {ending : List Char} (absent : c ∉ ending) (start : List Char) :
    lastPosition? c (start ++ c :: ending) = some (byteCount start) := by
  induction start with
  | nil =>
      rw [List.nil_append, lastPosition?, lastPosition?_eq_none absent]
      exact if_pos rfl
  | cons d start ih => rw [List.cons_append, lastPosition?, ih, byteCount]

theorem slice?_append (start middle rest : List Char) :
    slice? (byteCount start) (byteCount start + byteCount middle) (start ++ (middle ++ rest)) =
      some middle := by
  rw [slice?, if_pos (Nat.le_add_right _ _), ← byteCount_append, ← List.append_assoc,
    takeBytes_append, Option.bind_some, dropBytes_append]

/-- What stands before and after the last `c`. -/
theorem splitAtLast?_cases (c : Char) (text : List Char) :
    (splitAtLast? c text = none ∧ c ∉ text) ∨
      ∃ start ending, splitAtLast? c text = some (start, ending) ∧ text = start ++ c :: ending ∧
        c ∉ ending := by
  unfold splitAtLast?
  by_cases member : c ∈ text
  · rw [if_pos (List.contains_iff_mem.2 member)]
    obtain ⟨after, before, back, absent⟩ := List.eq_append_cons_of_mem (List.mem_reverse.2 member)
    have behind : (after ++ c :: before).takeWhile (· != c) = after := by
      rw [List.takeWhile_append_of_pos, List.takeWhile_cons_of_neg (by simp), List.append_nil]
      intro d inside
      exact bne_iff_ne.2 fun same => absent (same ▸ inside)
    refine Or.inr ⟨before.reverse, after.reverse, ?_, ?_, by simpa using absent⟩
    · simp only [back, behind]
      rw [← List.singleton_append, ← List.append_assoc, List.drop_left' (by simp)]
    · rw [← List.reverse_reverse text, back, List.reverse_append, List.reverse_cons, List.append_assoc,
        List.singleton_append]
  · rw [if_neg (mt List.contains_iff_mem.1 member)]
    exact Or.inl ⟨rfl, member⟩

end Text

namespace Strict

/-! ### Names of tiles -/

/-- `withoutTileType`: the text before the position of the last colon. -/
def withoutTileType (name : String) : Answer String :=
  match Text.lastPosition? ':' name.toList with
  | some position =>
    (Fault.splitCharacter.unless (Text.takeBytes position name.toList)).map String.ofList
  | none => .ok name

theorem withoutTileType_eq (name : String) :
    withoutTileType name = .ok (UltraFabric.withoutTileType name) := by
  unfold withoutTileType UltraFabric.withoutTileType
  rcases Text.splitAtLast?_cases ':' name.toList with ⟨none, absent⟩ | ⟨start, ending, split, same, absent⟩
  · rw [none, Text.lastPosition?_eq_none absent]
  · rw [split, same, Text.lastPosition?_append absent]
    simp only [Text.takeBytes_append]
    rfl

/-- The letters for the sides of a fence. -/
def sides : List Char :=
  ['T', 'B', 'U', 'L']

/-- Each of these letters takes one byte. -/
def sideBytes : List UInt8 :=
  sides.map fun side => side.val.toUInt8

/-- What the name of a fence begins with. -/
def fence : List Char :=
  ['F', 'E', 'N', 'C', 'E', '[']

/-- `Image.fenceColumns?`: the second byte from the end tells the side, and the columns stand between the
positions of two marks. -/
def fenceColumns (bank : List Char) : Answer (Option (List Char)) :=
  if fence.isPrefixOf bank && decide (2 ≤ Text.byteCount bank) then do
    let side ← Fault.outOfRange.unless (Text.bytes bank)[Text.byteCount bank - 2]?
    if sideBytes.contains side then
      match Text.firstPosition? '[' bank, Text.firstPosition? 'x' bank with
      | some opening, some mark =>
        if opening < mark then
          let columns ← Fault.splitCharacter.unless (Text.slice? (opening + 1) (mark + 1) bank)
          return some columns
        else return none
      | _, _ => return none
    else return none
  else return none

theorem narrow_of_mem_sides {side : Char} (member : side ∈ sides) :
    side.utf8Size = 1 ∧ side.val.toUInt8.toNat < 128 := by
  simp only [sides, List.mem_cons, List.not_mem_nil, or_false] at member
  rcases member with rfl | rfl | rfl | rfl <;> decide

theorem toUInt8_inj {c d : Char} (narrow : c.utf8Size = 1) (narrow' : d.utf8Size = 1)
    (same : c.val.toUInt8 = d.val.toUInt8) : c = d := by
  have small := UInt32.le_iff_toNat_le.1 (Char.utf8Size_eq_one_iff.1 narrow)
  have small' := UInt32.le_iff_toNat_le.1 (Char.utf8Size_eq_one_iff.1 narrow')
  have numbers := congrArg UInt8.toNat same
  rw [UInt32.toNat_toUInt8, UInt32.toNat_toUInt8] at numbers
  have bound : UInt32.toNat 127 = 127 := rfl
  refine Char.ext (UInt32.toNat_inj.1 ?_)
  omega

/-- A letter for a side is known by the last of its bytes. -/
theorem contains_sideBytes {side : Char} {byte : UInt8}
    (last : (String.utf8EncodeChar side).getLast? = some byte) :
    sideBytes.contains byte = sides.contains side := by
  rw [Bool.eq_iff_iff, List.contains_iff_mem, List.contains_iff_mem, sideBytes, List.mem_map]
  by_cases narrow : side.utf8Size = 1
  · rw [String.utf8EncodeChar_eq_singleton narrow] at last
    cases last
    constructor
    · rintro ⟨letter, member, same⟩
      rw [← toUInt8_inj (narrow_of_mem_sides member).1 narrow same]
      exact member
    · exact fun member => ⟨side, member, rfl⟩
  · have wide : 1 < side.utf8Size := by
      have := side.utf8Size_pos
      omega
    have large := Text.le_of_mem_utf8EncodeChar wide byte (List.mem_of_getLast? last)
    constructor
    · rintro ⟨letter, member, rfl⟩
      exact absurd (narrow_of_mem_sides member).2 (by omega)
    · exact fun member => absurd (narrow_of_mem_sides member).1 narrow

/-- The second byte from the end tells the side of a fence. -/
theorem endsInSide_eq (start : List Char) (side last : Char) :
    ∃ byte, (Text.bytes (start ++ [side, last]))[Text.byteCount (start ++ [side, last]) - 2]? =
        some byte ∧
      sideBytes.contains byte = Image.endsInSide (start ++ [side, last]) := by
  have count : Text.byteCount (start ++ [side, last]) =
      Text.byteCount start + side.utf8Size + last.utf8Size := by
    simp only [Text.byteCount_append, Text.byteCount, Nat.add_zero, Nat.add_assoc]
  have all : Text.bytes (start ++ [side, last]) =
      (Text.bytes start ++ String.utf8EncodeChar side) ++ String.utf8EncodeChar last := by
    simp [Text.bytes]
  have before : (Text.bytes start ++ String.utf8EncodeChar side).length =
      Text.byteCount start + side.utf8Size := by
    rw [List.length_append, Text.length_bytes, String.length_utf8EncodeChar]
  have told : Image.endsInSide (start ++ [side, last]) =
      (last.utf8Size = 1 && sides.contains side) := by
    simp [Image.endsInSide, sides]
  rw [count, all, told]
  have size := side.utf8Size_pos
  by_cases narrow : last.utf8Size = 1
  · -- The byte is the last one of the character before.
    have some : String.utf8EncodeChar side ≠ [] := by
      rw [ne_eq, ← List.length_eq_zero_iff, String.length_utf8EncodeChar]
      omega
    have known := List.getLast?_eq_some_getLast some
    refine ⟨_, ?_, by rw [contains_sideBytes known, decide_eq_true narrow, Bool.true_and]⟩
    rw [List.getElem?_append_left (by omega), List.getElem?_append_right (by rw [Text.length_bytes]; omega),
      Text.length_bytes, ← known, List.getLast?_eq_getElem?, String.length_utf8EncodeChar]
    congr 1
    omega
  · -- The byte is one of the last character, and no letter.
    have wide : 1 < last.utf8Size := by
      have := last.utf8Size_pos
      omega
    have inside : last.utf8Size - 2 < (String.utf8EncodeChar last).length := by
      rw [String.length_utf8EncodeChar]
      omega
    refine ⟨(String.utf8EncodeChar last)[last.utf8Size - 2], ?_, ?_⟩
    · rw [List.getElem?_append_right (by omega), before, ← List.getElem?_eq_getElem inside]
      congr 1
      omega
    · rw [decide_eq_false narrow, Bool.false_and, Bool.eq_false_iff]
      intro letter
      obtain ⟨side, member, same⟩ := List.mem_map.1 (List.contains_iff_mem.1 letter)
      have large := Text.le_of_mem_utf8EncodeChar wide _ (List.getElem_mem inside)
      rw [← same] at large
      exact absurd (narrow_of_mem_sides member).2 (by omega)

/-- The columns of a fence stand between the positions of the bracket and the mark. -/
theorem slice_columns {columns : List Char} (absent : 'x' ∉ columns) (rest : List Char) :
    Text.firstPosition? '[' (fence ++ (columns ++ 'x' :: rest)) = some 5 ∧
      Text.firstPosition? 'x' (fence ++ (columns ++ 'x' :: rest)) =
        some (6 + Text.byteCount columns) ∧
      Text.slice? 6 (6 + Text.byteCount columns + 1) (fence ++ (columns ++ 'x' :: rest)) =
        some (columns ++ ['x']) := by
  have count : Text.byteCount fence = 6 := by decide
  refine ⟨?_, ?_, ?_⟩
  · exact @Text.firstPosition?_append '[' ['F', 'E', 'N', 'C', 'E'] (by decide) _
  · have absent' : 'x' ∉ fence ++ columns := by simp [fence, absent]
    rw [← List.append_assoc, Text.firstPosition?_append absent', Text.byteCount_append, count]
  · have cut := Text.slice?_append fence (columns ++ ['x']) rest
    rw [Text.byteCount_append, count, ← Nat.add_assoc, List.append_assoc] at cut
    exact cut

theorem exists_last_two {text : List Char} (long : 2 ≤ text.length) :
    ∃ start side last, text = start ++ [side, last] := by
  obtain rfl | ⟨more, last, rfl⟩ := List.eq_nil_or_concat' text
  · simp at long
  obtain rfl | ⟨start, side, rfl⟩ := List.eq_nil_or_concat' more
  · simp at long
  · exact ⟨start, side, last, by simp⟩

theorem fenceColumns_eq (bank : List Char) :
    fenceColumns bank = .ok (Image.fenceColumns? bank) := by
  have same : "FENCE[".toList = fence := by decide
  unfold fenceColumns Image.fenceColumns?
  rw [same]
  by_cases begins : fence <+: bank
  · have prefixed : fence.isPrefixOf bank = true := List.isPrefixOf_iff_prefix.2 begins
    obtain ⟨rest, rfl⟩ := begins
    have long : 2 ≤ Text.byteCount (fence ++ rest) := by
      rw [Text.byteCount_append, show Text.byteCount fence = 6 by decide]
      omega
    obtain ⟨start, side, last, split⟩ := exists_last_two
      (show 2 ≤ (fence ++ rest).length by simp [fence])
    obtain ⟨byte, found, told⟩ := endsInSide_eq start side last
    rw [← split] at found told
    rw [prefixed, decide_eq_true long, found, ← told]
    simp only [Bool.true_and, if_true, Fault.unless, bind, Except.bind]
    cases sideBytes.contains byte with
    | false => rfl
    | true =>
        by_cases marked : 'x' ∈ rest
        · obtain ⟨columns, more, rfl, absent⟩ := List.eq_append_cons_of_mem marked
          obtain ⟨opening, mark, cut⟩ := slice_columns absent more
          have between : 5 < 6 + Text.byteCount columns := by omega
          have until' : (columns ++ 'x' :: more).takeWhile (fun c => decide (c ≠ 'x')) = columns := by
            rw [List.takeWhile_append_of_pos, List.takeWhile_cons_of_neg (by simp), List.append_nil]
            intro c inside
            exact decide_eq_true fun same => absent (same ▸ inside)
          have dropped : (fence ++ (columns ++ 'x' :: more)).drop 6 = columns ++ 'x' :: more := rfl
          have contained : (fence ++ (columns ++ 'x' :: more)).contains 'x' = true := by simp
          simp only [opening, mark, if_pos between, cut, if_true, contained, dropped, until']
          rfl
        · have absent : 'x' ∉ fence ++ rest := by simp [fence, marked]
          have missing : (fence ++ rest).contains 'x' = false := by
            rw [Bool.eq_false_iff, ne_eq, List.contains_iff_mem]
            exact absent
          simp only [Text.firstPosition?_eq_none absent, missing, if_true, Bool.and_false]
          cases Text.firstPosition? '[' (fence ++ rest) <;> rfl
  · have other : fence.isPrefixOf bank = false := by
      rw [Bool.eq_false_iff, ne_eq, List.isPrefixOf_iff_prefix]
      exact begins
    rw [other]
    rfl

/-- `Image.wireName`. -/
def wireName (tile name : String) : Answer String := do
  let bank ← withoutTileType tile
  match ← fenceColumns bank.toList with
  | some columns => return Text.replaceAll "1x" (String.ofList columns) name
  | none =>
    return if Text.startsWith "TILE[" bank && Text.contains ".FE" name then Image.elementWireName name
      else name

/-- **The name of a wire is never cut where it cannot be.** -/
theorem wireName_eq (tile name : String) : wireName tile name = .ok (Image.wireName tile name) := by
  unfold wireName Image.wireName
  rw [withoutTileType_eq]
  simp only [bind, Except.bind, fenceColumns_eq]
  cases Image.fenceColumns? (UltraFabric.withoutTileType tile).toList <;> rfl

end Strict

namespace Image

/-! ### Sites -/

/-- A text in which two bytes before the end are inside a character: the last one takes more than two
bytes, or it takes one and the one before it more than one. -/
inductive SplitsEnd : List Char → Prop where
  | wide {start : List Char} {last : Char} (wide : 2 < last.utf8Size) : SplitsEnd (start ++ [last])
  | narrow {start : List Char} {c last : Char} (wide : 1 < c.utf8Size) (narrow : last.utf8Size = 1) :
      SplitsEnd (start ++ [c, last])

theorem takeBytes_of_splitsEnd {text : List Char} (splits : SplitsEnd text) :
    Text.takeBytes (Text.byteCount text - 2) text = none := by
  cases splits with
  | @wide start last wide =>
      have count : Text.byteCount (start ++ [last]) - 2 =
          Text.byteCount start + (last.utf8Size - 2) := by
        rw [Text.byteCount_append, Text.byteCount, Text.byteCount]
        omega
      rw [count]
      exact Text.takeBytes_append_of_lt start [] (by omega) (by omega)
  | @narrow start c last wide narrow =>
      have count : Text.byteCount (start ++ [c, last]) - 2 =
          Text.byteCount start + (c.utf8Size - 1) := by
        rw [Text.byteCount_append, Text.byteCount, Text.byteCount, Text.byteCount]
        omega
      rw [count]
      exact Text.takeBytes_append_of_lt start [last] (by omega) (by omega)

/-- Otherwise the last characters take two bytes together, or the text is shorter. -/
theorem exists_takeBytes {text : List Char} (whole : ¬ SplitsEnd text) :
    ∃ start, Text.takeBytes (Text.byteCount text - 2) text = some start := by
  obtain rfl | ⟨start, last, rfl⟩ := List.eq_nil_or_concat' text
  · exact ⟨[], rfl⟩
  have size := last.utf8Size_pos
  have small : last.utf8Size ≤ 2 := by
    by_contra wide
    exact whole (.wide (by omega))
  by_cases two : last.utf8Size = 2
  · refine ⟨start, ?_⟩
    rw [Text.byteCount_append, Text.byteCount, Text.byteCount, two, Nat.add_zero, Nat.add_sub_cancel]
    exact Text.takeBytes_append start [last]
  obtain rfl | ⟨start, c, rfl⟩ := List.eq_nil_or_concat' start
  · refine ⟨[], ?_⟩
    have none : Text.byteCount ([] ++ [last]) - 2 = 0 := by
      rw [List.nil_append, Text.byteCount, Text.byteCount]
      omega
    rw [none, Text.takeBytes]
  · have narrow : c.utf8Size = 1 := by
      have := c.utf8Size_pos
      by_contra wide
      refine whole ?_
      rw [List.append_assoc]
      exact .narrow (by omega) (by omega)
    refine ⟨start, ?_⟩
    have count : Text.byteCount (start ++ [c] ++ [last]) - 2 = Text.byteCount start := by
      rw [Text.byteCount_append, Text.byteCount_append]
      simp only [Text.byteCount]
      omega
    rw [count, List.append_assoc]
    exact Text.takeBytes_append start _

/-- **When the site of a switch cannot be cut off** the name of its wire. -/
theorem site?_eq_none_iff {wire : String} : site? wire = none ↔ SplitsEnd wire.toList := by
  refine ⟨fun none => ?_, takeBytes_of_splitsEnd⟩
  by_contra whole
  obtain ⟨start, cut⟩ := exists_takeBytes whole
  rw [site?, cut] at none
  cases none

end Image

/-! ### Narrow names -/

/-- All characters of a text take one byte each. -/
def Text.Narrow (text : List Char) : Prop :=
  ∀ c ∈ text, c.utf8Size = 1

namespace Text.Narrow

theorem replaceFrom {old new : List Char} (narrow' : Narrow new) :
    ∀ (text : List Char) (skip : ℕ), Narrow text → Narrow (Text.replaceFrom old new skip text) := by
  intro text
  induction text with
  | nil =>
      intro skip narrow
      cases skip <;> exact narrow
  | cons c rest ih =>
      intro skip narrow
      obtain ⟨here, later⟩ := List.forall_mem_cons.1 narrow
      cases skip with
      | succ skip => exact ih skip later
      | zero =>
          rw [Text.replaceFrom]
          split
          · exact List.forall_mem_append.2 ⟨narrow', ih _ later⟩
          · exact List.forall_mem_cons.2 ⟨here, ih 0 later⟩

theorem replaceAll {text : String} (narrow : Narrow text.toList) (old : String) {new : String}
    (narrow' : Narrow new.toList) : Narrow (Text.replaceAll old new text).toList := by
  rw [Text.replaceAll, String.toList_ofList]
  exact replaceFrom narrow' _ 0 narrow

theorem withoutTileType {tile : String} (narrow : Narrow tile.toList) :
    Narrow (UltraFabric.withoutTileType tile).toList := by
  unfold UltraFabric.withoutTileType
  rcases Text.splitAtLast?_cases ':' tile.toList with ⟨none, -⟩ | ⟨start, ending, split, same, -⟩
  · rw [none]
    exact narrow
  · rw [split, String.toList_ofList]
    rw [same] at narrow
    exact (List.forall_mem_append.1 narrow).1

theorem fenceColumns {bank columns : List Char} (narrow : Narrow bank)
    (found : Image.fenceColumns? bank = some columns) : Narrow columns := by
  unfold Image.fenceColumns? at found
  split at found
  · cases found
    refine List.forall_mem_append.2 ⟨fun c member => ?_, by simp; decide⟩
    exact narrow c (List.mem_of_mem_drop ((List.takeWhile_prefix _).subset member))
  · cases found

theorem elementWireName {name : String} (narrow : Narrow name.toList) :
    Narrow (Image.elementWireName name).toList := by
  have point : Narrow ".".toList := by simp [Narrow]; decide
  have register : Narrow ".DFF".toList := by simp [Narrow]; decide
  have table : Narrow ".LUT".toList := by simp [Narrow]; decide
  have input : Narrow ".I".toList := by simp [Narrow]; decide
  unfold Image.elementWireName
  split
  · exact (narrow.replaceAll _ point).replaceAll _ register
  · exact narrow.replaceAll _ register
  · exact narrow.replaceAll _ register
  · exact narrow.replaceAll _ register
  · exact (narrow.replaceAll _ point).replaceAll _ table
  · exact (narrow.replaceAll _ input).replaceAll _ table
  · exact narrow

/-- Names of wires stay narrow. -/
theorem wireName {tile name : String} (tileNarrow : Narrow tile.toList) (narrow : Narrow name.toList) :
    Narrow (Image.wireName tile name).toList := by
  unfold Image.wireName
  cases found : Image.fenceColumns? (UltraFabric.withoutTileType tile).toList with
  | some columns =>
      simp only [found]
      refine narrow.replaceAll _ ?_
      rw [String.toList_ofList]
      exact tileNarrow.withoutTileType.fenceColumns found
  | none =>
      simp only [found]
      split
      · exact narrow.elementWireName
      · exact narrow

theorem not_splitsEnd {text : List Char} (narrow : Narrow text) : ¬ Image.SplitsEnd text := by
  intro splits
  cases splits with
  | @wide start last wide =>
      have := narrow last (by simp)
      omega
  | @narrow start c last wide _ =>
      have := narrow c (by simp)
      omega

end Text.Narrow

end UltraFabric
