import Mathlib.Data.List.Basic
import ImportSplice.Proofs.Text.Trimming
import ImportSplice.Yaml.Document
import ImportSplice.Yaml.Writer

/-!
How texts of printable ASCII characters are written.  They have no line breaks, so none of
them becomes a block: a text stands bare or between quotes, and only quotes and backslashes
are escaped.  Each of their bytes is a character of its own.
-/

namespace ImportSplice.Yaml

/-- Texts of printable ASCII characters. -/
def Printable (text : Bytes) : Prop := ∀ byte ∈ text, 0x20 ≤ byte ∧ byte ≤ 0x7E

def IsAscii (text : Bytes) : Prop := ∀ byte ∈ text, byte < 0x80

instance : DecidablePred Printable := fun text =>
  List.decidableBAll (fun byte => 0x20 ≤ byte ∧ byte ≤ 0x7E) text

instance : DecidablePred IsAscii := fun text =>
  List.decidableBAll (fun byte => byte < 0x80) text

variable {text first second : Bytes}

theorem Printable.isAscii (printable : Printable text) : IsAscii text := fun byte member =>
  UInt8.lt_of_le_of_lt (printable byte member).2 (by decide)

theorem IsAscii.append (front : IsAscii first) (back : IsAscii second) :
    IsAscii (first ++ second) :=
  List.forall_mem_append.mpr ⟨front, back⟩

/-- The character that an ASCII byte encodes. -/
def asciiChar (byte : UInt8) : Char := Char.ofNat byte.toNat

theorem toNat_asciiChar (byte : UInt8) : (asciiChar byte).toNat = byte.toNat := by
  have small := byte.toNat_lt
  rw [asciiChar, Char.ofNat, dif_pos (.inl (by omega))]
  rfl

theorem asciiChar_inj {byte other : UInt8} : asciiChar byte = asciiChar other ↔ byte = other := by
  constructor
  · intro same
    have points := congrArg Char.toNat same
    rw [toNat_asciiChar, toNat_asciiChar] at points
    exact UInt8.toNat_inj.mp points
  · rintro rfl
    rfl

theorem piecesOnto_ascii (seen : List Utf8.Piece) (isAscii : IsAscii text) :
    Utf8.piecesOnto seen text = seen.reverse ++ text.map fun byte => .char byte.toNat := by
  induction text generalizing seen with
  | nil => simp [Utf8.piecesOnto]
  | cons byte rest inductionHypothesis =>
      rw [IsAscii, List.forall_mem_cons] at isAscii
      have decoded : Utf8.scalar? [byte] = some byte.toNat := by
        rw [Utf8.scalar?, if_pos isAscii.1]
      have single := Utf8.first?_append decoded rest
      rw [List.singleton_append] at single
      rw [Utf8.piecesOnto]
      split
      · rename_i point tail read
        rw [single] at read
        cases read
        rw [inductionHypothesis _ isAscii.2]
        simp
      · rename_i read
        rw [single] at read
        contradiction

theorem pieces_ascii (isAscii : IsAscii text) :
    Utf8.pieces text = text.map fun byte => .char byte.toNat :=
  piecesOnto_ascii [] isAscii

theorem characters_ascii (isAscii : IsAscii text) :
    Document.characters text = text.map asciiChar := by
  rw [Document.characters, pieces_ascii isAscii, List.map_map]
  rfl

theorem encoded_characters (isAscii : IsAscii text) : encoded (text.map asciiChar) = text := by
  induction text with
  | nil => rfl
  | cons byte rest inductionHypothesis =>
      rw [IsAscii, List.forall_mem_cons] at isAscii
      have small : byte.toNat < 0x80 := UInt8.lt_iff_toNat_lt.mp isAscii.1
      have alone : Utf8.encode (asciiChar byte).toNat = [byte] := by
        rw [toNat_asciiChar, Utf8.encode, if_pos small, UInt8.ofNat_toNat]
      rw [encoded, List.map_cons, List.flatMap_cons, alone]
      exact congrArg (byte :: ·) (inductionHypothesis isAscii.2)

/-- A text with a backslash before each quote and each backslash. -/
def escaped (text : Bytes) : Bytes :=
  text.flatMap fun byte => if byte = 34 ∨ byte = 92 then [92, byte] else [byte]

/-- A text as it is written if all its characters can be printed. -/
def written (text : Bytes) : Bytes :=
  if needsQuotes text then 34 :: escaped text ++ [34] else text

theorem isPrintable_ascii {point : Nat} (low : 0x20 ≤ point) (high : point ≤ 0x7E) :
    isPrintable point = true := by
  rw [isPrintable, printableRanges, List.any_cons, Bool.or_eq_true]
  exact .inl (by simp [low, high])

theorem quoted_printable (printable : Printable text) :
    quoted text = 34 :: escaped text ++ [34] := by
  rw [quoted, pieces_ascii printable.isAscii, List.flatMap_map, escaped]
  congr 2
  apply List.flatMap_congr
  intro byte member
  obtain ⟨low, high⟩ := printable byte member
  rw [UInt8.le_iff_toNat_le] at low high
  have ascii : byte.toNat < 0x80 := Nat.lt_of_le_of_lt high (by decide)
  have same : ∀ other : UInt8, byte.toNat = other.toNat ↔ byte = other := fun other =>
    UInt8.toNat_inj
  simp only [Quoted.piece, Quoted.char, isPrintable_ascii low high, if_true, Utf8.encode,
    if_pos ascii, UInt8.ofNat_toNat, Bool.or_eq_true, beq_iff_eq]
  simp only [show byte.toNat = 34 ↔ byte = 34 from same 34,
    show byte.toNat = 92 ↔ byte = 92 from same 92]

theorem lineBreak_printable (printable : Printable text) : lineBreak text = [13, 10] := by
  have absent : ∀ byte : UInt8, byte < 0x20 → byte ∉ text := by
    intro byte low member
    exact absurd (printable byte member).1 (UInt8.not_le.mpr low)
  have noFeed := List.count_eq_zero.mpr (absent 10 (by decide))
  have noReturn := List.count_eq_zero.mpr (absent 13 (by decide))
  have noPair : (text.zip (text.drop 1)).count (13, 10) = 0 := by
    rw [List.count_eq_zero]
    intro member
    exact absent 13 (by decide) (List.of_mem_zip member).1
  simp only [lineBreak, noFeed, noReturn, noPair, BEq.rfl, Bool.and_self, if_true]

theorem occursIn_mem {part : Bytes} {byte : UInt8} (inside : byte ∈ part)
    (occurs : Bytes.occursIn part text = true) : byte ∈ text := by
  induction text with
  | nil =>
      rw [Bytes.occursIn, List.isEmpty_iff] at occurs
      simp [occurs] at inside
  | cons head rest inductionHypothesis =>
      rw [Bytes.occursIn, Bool.or_eq_true] at occurs
      rcases occurs with here | later
      · exact (List.isPrefixOf_iff_prefix.mp here).subset inside
      · exact List.mem_cons_of_mem _ (inductionHypothesis later)

theorem scalar_printable (margin : Bytes) (printable : Printable text) :
    scalar margin text = written text := by
  have unbroken : Bytes.occursIn [13, 10] text = false := by
    rw [Bool.eq_false_iff]
    intro occurs
    have member : 10 ∈ text := occursIn_mem (by decide : 10 ∈ ([13, 10] : Bytes)) occurs
    exact absurd (printable 10 member).1 (by decide)
  rw [scalar, written, quoted_printable printable]
  split
  · rfl
  · rw [lineBreak_printable printable]
    simp [unbroken]

theorem printable_escaped (printable : Printable text) : Printable (escaped text) := by
  intro byte member
  rw [escaped, List.mem_flatMap] at member
  obtain ⟨original, inside, shown⟩ := member
  split at shown
  · simp only [List.mem_cons, List.not_mem_nil, or_false] at shown
    rcases shown with rfl | rfl
    · decide
    · exact printable byte inside
  · rw [List.mem_singleton] at shown
    rw [shown]
    exact printable original inside

theorem printable_written (printable : Printable text) : Printable (written text) := by
  unfold written
  split
  · intro byte member
    simp only [List.mem_append, List.mem_cons, List.not_mem_nil, or_false] at member
    rcases member with (rfl | inside) | rfl
    · decide
    · exact printable_escaped printable byte inside
    · decide
  · exact printable

theorem length_escaped (text : Bytes) : (escaped text).length ≤ 2 * text.length := by
  induction text with
  | nil => simp [escaped]
  | cons byte rest inductionHypothesis =>
      rw [escaped, List.flatMap_cons, List.length_append, List.length_cons]
      rw [escaped] at inductionHypothesis
      split <;> simp only [List.length_cons, List.length_nil] <;> omega

theorem length_written (text : Bytes) : (written text).length ≤ 2 * text.length + 2 := by
  unfold written
  split
  · have bound := length_escaped text
    simp only [List.cons_append, List.length_cons, List.length_append, List.length_nil]
    omega
  · omega

def writtenItem (text : Bytes) : Bytes := ascii "  - " ++ written text ++ [10]

theorem item_printable (printable : Printable text) : item text = writtenItem text := by
  have unbroken : ∀ byte ∈ written text, (byte == (10 : UInt8)) = false := by
    intro byte member
    rw [beq_eq_false_iff_ne]
    rintro rfl
    exact absurd (printable_written printable 10 member).1 (by decide)
  have whole : Bytes.splitOn 10 (written text) = [written text] := by
    rw [Bytes.splitOn, List.splitOnP_eq_singleton]
    exact unbroken
  rw [item, scalar_printable _ printable, whole]
  simp [writtenItem, Bytes.joinWith]

def writtenList (texts : List Bytes) : Bytes :=
  if texts = [] then ascii " []\n" else 10 :: texts.flatMap writtenItem

theorem encode_printable {config : Config}
    (printable : ∀ text ∈ config.marker :: config.imports, Printable text) :
    encode config = ascii "marker: " ++
      (written config.marker ++ 10 :: (ascii "imports:" ++ writtenList config.imports)) := by
  rw [List.forall_mem_cons] at printable
  rw [encode, scalar_printable _ printable.1, writtenList,
    List.flatMap_congr fun text member => item_printable (printable.2 text member)]
  simp only [List.isEmpty_iff, List.append_assoc]
  split <;> rfl

end ImportSplice.Yaml
