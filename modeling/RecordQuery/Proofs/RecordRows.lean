import Mathlib.Data.List.Forall2
import Mathlib.Data.List.TakeWhile
import RecordQuery.Proofs.LimitedListings
import RecordQuery.Text.Unstyled

/-!
# Rows of records

Each record of a table has one line with five cells. The first four have as many characters as their
columns, whatever the record holds, so that the cells stand below each other. Colours add escape sequences
and change nothing of what is seen; only the blanks at the end of a line can differ.
-/

namespace RecordQuery

/-! ## Escape sequences and blanks -/

namespace Text

section Blanks

variable {text blanks : List Char}

/-- An escape sequence does not reach into blanks, since its last letter is none. -/
theorem exists_of_behindSequence?_append {behind : List Char}
    (blank : ∀ c ∈ blanks, isBlank c = true)
    (found : behindSequence? (text ++ blanks) = some behind) :
    ∃ front, behind = front ++ blanks ∧ behindSequence? text = some front := by
  obtain ⟨code, codes, whole⟩ := behindSequence?_eq_some_iff.mp found
  rcases List.append_eq_append_iff.mp whole with
    ⟨others, sequence, divided⟩ | ⟨front, rfl, rfl⟩
  · rcases List.eq_nil_or_concat others with rfl | ⟨front, last, rfl⟩
    · rw [List.append_nil] at sequence
      refine ⟨[], by simpa using divided.symm, ?_⟩
      exact behindSequence?_eq_some_iff.mpr ⟨code, codes, by simp [sequence]⟩
    · rw [List.concat_eq_append, ← List.append_assoc] at sequence
      have ends : (escape :: '[' :: code) ++ ['m'] = text ++ front ++ [last] :=
        sequence
      obtain ⟨_, lastEquality⟩ := List.append_inj' ends rfl
      obtain rfl := List.singleton_inj.mp lastEquality
      exact absurd (blank 'm' (by simp [divided])) (by decide)
  · exact ⟨front, rfl, behindSequence?_eq_some_iff.mpr ⟨code, codes, rfl⟩⟩

theorem unstyled_append_blanks (text : List Char)
    (blank : ∀ c ∈ blanks, isBlank c = true) :
    unstyled (text ++ blanks) = unstyled text ++ blanks := by
  fun_induction unstyled text with
  | case1 c rest behind found _ inductionHypothesis =>
      have further : behindSequence? (c :: rest ++ blanks) =
          some (behind ++ blanks) := by
        obtain ⟨code, codes, whole⟩ := behindSequence?_eq_some_iff.mp found
        rw [whole, List.append_assoc]
        exact behindSequence?_eq_some_iff.mpr ⟨code, codes, rfl⟩
      rw [unstyled_of_behindSequence? further, inductionHypothesis]
  | case2 c rest none inductionHypothesis =>
      have still : behindSequence? (c :: rest ++ blanks) = Option.none := by
        cases found : behindSequence? (c :: rest ++ blanks) with
        | none => rfl
        | some behind =>
            obtain ⟨front, _, found'⟩ :=
              exists_of_behindSequence?_append blank found
            cases none.symm.trans found'
      rw [List.cons_append] at still ⊢
      rw [unstyled_cons still, inductionHypothesis, List.cons_append]
  | case3 =>
      have noEscape : escape ∉ blanks :=
        fun member => absurd (blank escape member) (by decide)
      simpa using unstyled_append_of_plain noEscape []

theorem exists_blanks_of_trimEnd (text : List Char) :
    ∃ blanks, (∀ c ∈ blanks, isBlank c = true) ∧
      text = trimEnd text ++ blanks := by
  refine ⟨(text.reverse.takeWhile isBlank).reverse, fun c member => ?_, ?_⟩
  · rw [List.mem_reverse] at member
    exact List.all_eq_true.mp List.all_takeWhile c member
  · rw [trimEnd, ← List.reverse_append, List.takeWhile_append_dropWhile,
      List.reverse_reverse]

theorem trimEnd_append_blanks (text : List Char)
    (blank : ∀ c ∈ blanks, isBlank c = true) :
    trimEnd (text ++ blanks) = trimEnd text := by
  have nothing : trimEnd blanks = [] := by
    rw [trimEnd, List.dropWhile_eq_nil_iff.mpr]
    · rfl
    · exact fun c member => blank c (List.mem_reverse.mp member)
  rw [trimEnd_append, if_pos nothing]

/-- Blanks at the end are the same whether they are dropped in front of the escape sequences or behind
them. -/
theorem trimEnd_unstyled_trimEnd (text : List Char) :
    trimEnd (unstyled (trimEnd text)) = trimEnd (unstyled text) := by
  obtain ⟨blanks, blank, whole⟩ := exists_blanks_of_trimEnd text
  calc trimEnd (unstyled (trimEnd text))
      = trimEnd (unstyled (trimEnd text) ++ blanks) :=
        (trimEnd_append_blanks _ blank).symm
    _ = trimEnd (unstyled (trimEnd text ++ blanks)) := by
        rw [unstyled_append_blanks _ blank]
    _ = trimEnd (unstyled text) := by rw [← whole]

end Blanks

/-! ## Cells -/

/-- A cell of a certain width that shows a text: the text as a whole with spaces behind it, or the
beginning of a text that is too long, with three dots. -/
structure Fills (width : Nat) (text cell : List Char) : Prop where
  length : cell.length = width
  whole : text.length ≤ width → ∃ count, cell = text ++ List.replicate count ' '
  cut : width < text.length → cell = text.take (width - 3) ++ ['.', '.', '.']

section Cells

variable {width : Nat} {text : List Char}

theorem fills_pad (short : text.length ≤ width) :
    Fills width text (pad width text) := by
  refine ⟨?_, fun _ => ⟨_, rfl⟩, fun long => absurd short (Nat.not_le.mpr long)⟩
  rw [length_pad]
  exact Nat.max_eq_left short

theorem fills_cell (wide : 3 ≤ width) (text : List Char) :
    Fills width text (cell width text) := by
  refine ⟨length_cell wide text, fun short => ?_, fun long => ?_⟩
  · rw [cell, truncate, if_neg (Nat.not_lt.mpr short)]
    exact ⟨_, rfl⟩
  · have full : (text.take (width - 3) ++ ['.', '.', '.']).length = width := by
      simp only [List.length_append, List.length_take, List.length_cons,
        List.length_nil]
      omega
    rw [cell, truncate, if_pos long, pad]
    change text.take (width - 3) ++ ['.', '.', '.'] ++
      List.replicate (width - (text.take (width - 3) ++ ['.', '.', '.']).length)
        ' ' = _
    rw [full, Nat.sub_self, List.replicate_zero, List.append_nil]

/-- A cell has no characters but those of its text, dots and spaces. -/
theorem Fills.not_mem {cell : List Char} (fills : Fills width text cell)
    {c : Char} (notDot : c ≠ '.') (notSpace : c ≠ ' ') (absent : c ∉ text) :
    c ∉ cell := by
  intro member
  by_cases short : text.length ≤ width
  · obtain ⟨count, rfl⟩ := fills.whole short
    rcases List.mem_append.mp member with inText | isSpace
    · exact absent inText
    · exact notSpace (List.eq_of_mem_replicate isSpace)
  · rw [fills.cut (Nat.not_le.mp short)] at member
    rcases List.mem_append.mp member with inText | isDot
    · exact absent (List.mem_of_mem_take inText)
    · simp [notDot] at isDot

end Cells

/-! ## Lines that show a text -/

/-- A text on one line without escape characters. -/
structure IsPlain (text : List Char) : Prop where
  unbroken : '\n' ∉ text
  unescaped : escape ∉ text

/-- A line, perhaps with styles, that shows a text. -/
structure IsLineOf (styled plain : List Char) : Prop where
  unbroken : '\n' ∉ styled
  shows : Shows styled plain

section Lines

variable {width : Nat} {text styled plain : List Char}

theorem Fills.isPlain {cell : List Char} (fills : Fills width text cell)
    (isPlain : IsPlain text) : IsPlain cell where
  unbroken := fills.not_mem (by decide) (by decide) isPlain.unbroken
  unescaped := fills.not_mem (by decide) (by decide) isPlain.unescaped

theorem IsPlain.isLineOf (isPlain : IsPlain text) : IsLineOf text text where
  unbroken := isPlain.unbroken
  shows := .of_plain isPlain.unescaped

theorem IsLineOf.append {styled' plain' : List Char}
    (first : IsLineOf styled plain) (second : IsLineOf styled' plain') :
    IsLineOf (styled ++ styled') (plain ++ plain') where
  unbroken := by simp [first.unbroken, second.unbroken]
  shows := first.shows.append second.shows

theorem IsLineOf.applyIf (isLine : IsLineOf styled plain) (style : Style)
    (colors : Bool) : IsLineOf (style.applyIf colors styled) plain where
  unbroken := by
    have unbroken := isLine.unbroken
    cases colors with
    | false => exact unbroken
    | true =>
        cases style <;>
          simp [Style.applyIf, Style.apply, Style.sequence, Style.onCode,
            Style.offCode, unbroken]
  shows := isLine.shows.applyIf style colors

end Lines

end Text

namespace Report

open Text (Style Fills IsPlain IsLineOf lines trimEnd unstyled)

/-! ## Rows -/

/-- A record whose texts, as far as they are shown, stand on one line and have no escape characters. -/
structure IsPlainRecord (record : Record) : Prop where
  name : IsPlain record.name.toList
  status : IsPlain record.status.toList
  project : ∀ project, record.project? = some project → IsPlain project.toList
  parent : ∀ parent, record.parent = some parent → IsPlain parent.toList

/-- What is seen of a row, blanks at its end apart: the name, the status, the project and the signs of the
signals in cells of 32, 24, 16 and 5 characters, and the whole parent, with a space between each two. -/
def Aligned (record : Record) (row : List Char) : Prop :=
  ∃ name status project flags : List Char,
    Fills 32 record.name.toList name ∧
    Fills 24 record.status.toList status ∧
    Fills 16 (record.project?.getD "-").toList project ∧
    Fills 5 (signs record.signals) flags ∧
    trimEnd (unstyled row) =
      trimEnd (name ++ ' ' :: status ++ ' ' :: project ++ ' ' :: flags ++
        ' ' :: (record.parent.getD "").toList)

/-- The cells of a row as they are shown. -/
def shownCells (colors : Bool) (record : Record) : List (List Char) :=
  [Text.cell nameWidth record.name.toList,
    statusCell record.status record.baseStatus statusWidth colors,
    Text.cell projectWidth (record.project?.getD "-").toList,
    flagsCell record.signals colors,
    (record.parent.getD "").toList]

/-- The cells of a row without styles. -/
def seenCells (record : Record) : List (List Char) :=
  [Text.cell nameWidth record.name.toList,
    Text.cell statusWidth record.status.toList,
    Text.cell projectWidth (record.project?.getD "-").toList,
    Text.pad flagsWidth (signs record.signals),
    (record.parent.getD "").toList]

section Rows

variable {record : Record}

theorem joinCells_cons_cons (first second : List Char)
    (others : List (List Char)) :
    joinCells (first :: second :: others) =
      first ++ ([' '] ++ joinCells (second :: others)) := by
  simp [joinCells, List.intercalate]

theorem isLineOf_joinCells {styled plain : List (List Char)}
    (cells : List.Forall₂ IsLineOf styled plain) :
    IsLineOf (joinCells styled) (joinCells plain) := by
  induction cells with
  | nil => exact IsPlain.isLineOf ⟨by decide, by decide⟩
  | cons first others inductionHypothesis =>
      cases others with
      | nil => simpa [joinCells] using first
      | cons second others =>
          have space : IsPlain [' '] := ⟨by decide, by decide⟩
          rw [joinCells_cons_cons, joinCells_cons_cons]
          exact first.append (space.isLineOf.append inductionHypothesis)

theorem length_signs_le (signals : Signals) : (signs signals).length ≤ 3 := by
  rw [signs, List.length_map]
  exact List.length_filter_le _ _

theorem isPlain_signs (signals : Signals) : IsPlain (signs signals) := by
  obtain ⟨errorSuffix, runningAgent, runningProcess⟩ := signals
  cases errorSuffix <;> cases runningAgent <;> cases runningProcess <;>
    exact ⟨by decide, by decide⟩

theorem isLineOf_statusCell {status : String}
    (isPlain : IsPlain status.toList) (baseStatus : String) (colors : Bool) :
    IsLineOf (statusCell status baseStatus statusWidth colors)
      (Text.cell statusWidth status.toList) := by
  have label : IsPlain (Text.cell statusWidth status.toList) :=
    (Text.fills_cell (by decide) _).isPlain isPlain
  rw [statusCell]
  cases statusStyle? baseStatus with
  | none => exact label.isLineOf
  | some style => exact label.isLineOf.applyIf style colors

theorem fills_flags (signals : Signals) :
    Fills flagsWidth (signs signals) (Text.pad flagsWidth (signs signals)) :=
  Text.fills_pad (Nat.le_trans (length_signs_le signals) (by decide))

theorem isLineOf_flagsCell (signals : Signals) (colors : Bool) :
    IsLineOf (flagsCell signals colors)
      (Text.pad flagsWidth (signs signals)) :=
  (((fills_flags signals).isPlain (isPlain_signs signals)).isLineOf.applyIf
    .red _).applyIf .bold _

theorem IsPlainRecord.shownProject (plain : IsPlainRecord record) :
    IsPlain (record.project?.getD "-").toList := by
  cases known : record.project? with
  | none => exact ⟨by decide, by decide⟩
  | some project => exact plain.project project known

theorem IsPlainRecord.shownParent (plain : IsPlainRecord record) :
    IsPlain (record.parent.getD "").toList := by
  cases known : record.parent with
  | none => exact ⟨by decide, by decide⟩
  | some parent => exact plain.parent parent known

theorem isLineOf_shownCells (plain : IsPlainRecord record) (colors : Bool) :
    IsLineOf (joinCells (shownCells colors record))
      (joinCells (seenCells record)) := by
  have name : IsPlain (Text.cell nameWidth record.name.toList) :=
    (Text.fills_cell (by decide) _).isPlain plain.name
  have project :
      IsPlain (Text.cell projectWidth (record.project?.getD "-").toList) :=
    (Text.fills_cell (by decide) _).isPlain plain.shownProject
  exact isLineOf_joinCells (.cons name.isLineOf
    (.cons (isLineOf_statusCell plain.status _ colors)
      (.cons project.isLineOf
        (.cons (isLineOf_flagsCell record.signals colors)
          (.cons plain.shownParent.isLineOf .nil)))))

/-- Behind the styles of a row stand its cells, whether there are colours or not. -/
theorem trimEnd_unstyled_recordRow (plain : IsPlainRecord record)
    (colors : Bool) :
    trimEnd (unstyled (recordRow colors record)) =
      trimEnd (joinCells (seenCells record)) := by
  change trimEnd (unstyled (trimEnd (joinCells (shownCells colors record)))) = _
  rw [Text.trimEnd_unstyled_trimEnd,
    (isLineOf_shownCells plain colors).shows.unstyled_eq]

theorem recordRow_without_colors (record : Record) :
    recordRow false record = trimEnd (joinCells (seenCells record)) := by
  have status : statusCell record.status record.baseStatus statusWidth false =
      Text.cell statusWidth record.status.toList := by
    rw [statusCell]
    cases statusStyle? record.baseStatus <;> rfl
  rw [recordRow, status]
  rfl

theorem aligned_recordRow (plain : IsPlainRecord record) (colors : Bool) :
    Aligned record (recordRow colors record) := by
  refine ⟨_, _, _, _, Text.fills_cell (by decide) _,
    Text.fills_cell (by decide) _, Text.fills_cell (by decide) _,
    fills_flags record.signals, ?_⟩
  rw [trimEnd_unstyled_recordRow plain, seenCells]
  simp [joinCells, nameWidth, statusWidth, projectWidth]

theorem lineFeed_not_mem_recordRow (plain : IsPlainRecord record)
    (colors : Bool) : '\n' ∉ recordRow colors record :=
  mt (Text.trimEnd_prefix_self _).mem (isLineOf_shownCells plain colors).unbroken

end Rows

/-! ## The table -/

section Table

variable {records : List Record}

/-- Rows without line feeds are the lines of a text. -/
theorem lines_joinLines_of_unbroken {rows : List (List Char)}
    (unbroken : ∀ row ∈ rows, '\n' ∉ row) :
    lines (joinLines rows).toList = rows ++ [[]] := by
  have single : rows.flatMap lines = rows.map id := by
    rw [List.map_eq_flatMap]
    exact List.flatMap_congr fun row member =>
      Text.lines_of_no_lineFeed (unbroken row member)
  rw [lines_joinLines, single, List.map_id]

/-- A table of some records has a line for the header, one for each record, in which its cells are seen in
their columns, and one more just if records are left out. Colours change nothing of what is seen. -/
theorem lines_recordsTable (nonempty : records ≠ [])
    (plain : ∀ record ∈ records, IsPlainRecord record) (total : Nat)
    (colors : Bool) :
    (∃ header notices,
      lines (recordsTable records total colors).toList =
        header :: records.map (recordRow colors) ++ notices ++ [[]] ∧
      notices.length = if records.length < total then 1 else 0) ∧
    ∀ record ∈ records,
      Aligned record (recordRow colors record) ∧
      trimEnd (unstyled (recordRow true record)) = recordRow false record := by
  constructor
  · have header : '\n' ∉ Style.dimmed.applyIf colors recordsHeader := by
      cases colors <;> decide
    have rows : ∀ row ∈ records.map (recordRow colors), '\n' ∉ row := by
      intro row member
      obtain ⟨record, isMember, rfl⟩ := List.mem_map.mp member
      exact lineFeed_not_mem_recordRow (plain record isMember) colors
    have notice := lineFeed_not_mem_shownNotice records.length total colors
    refine ⟨Style.dimmed.applyIf colors recordsHeader,
      if records.length < total then
        [shownNotice records.length total colors] else [], ?_, ?_⟩
    · rw [recordsTable_of_ne_nil nonempty]
      apply lines_joinLines_of_unbroken
      rw [List.forall_mem_append, List.forall_mem_cons]
      refine ⟨⟨header, rows⟩, fun row member => ?_⟩
      split at member
      · exact List.mem_singleton.mp member ▸ notice
      · cases member
    · split <;> rfl
  · intro record member
    have isPlain := plain record member
    refine ⟨aligned_recordRow isPlain colors, ?_⟩
    rw [trimEnd_unstyled_recordRow isPlain, recordRow_without_colors]

/-- A name and a status that are too long, signals at the end of the row, and a record left out. -/
theorem lines_recordsTable_cut :
    let record : Record := {
      name := "a_name_that_is_longer_than_its_column"
      status := "Drafted - (!: READY TO MAIL)"
      filePath := "/p/link/link.gp"
      signals := ⟨true, false, false⟩ }
    ([record] ≠ [] ∧ ∀ other ∈ [record], IsPlainRecord other) ∧
    (∃ header notice,
      lines (recordsTable [record] 2 true).toList =
        [header, recordRow true record, notice, []]) ∧
    Aligned record (recordRow true record) ∧
    trimEnd (unstyled (recordRow true record)) =
      ("a_name_that_is_longer_than_it... Drafted - (!: READY T... " ++
        "link             !").toList := by
  intro record
  have project : record.project? = some "link" := by decide
  have isPlain : IsPlainRecord record := by
    refine ⟨⟨by decide, by decide⟩, ⟨by decide, by decide⟩, ?_, ?_⟩
    · rintro other known
      cases project.symm.trans known
      exact ⟨by decide, by decide⟩
    · rintro other ⟨⟩
  have nonempty : [record] ≠ [] := List.cons_ne_nil _ _
  have plain : ∀ other ∈ [record], IsPlainRecord other :=
    fun other member => List.mem_singleton.mp member ▸ isPlain
  obtain ⟨⟨header, notices, divided, cut⟩, seen⟩ :=
    lines_recordsTable nonempty plain 2 true
  obtain ⟨aligned, same⟩ := seen record (List.mem_singleton.mpr rfl)
  obtain ⟨notice, rfl⟩ := List.length_eq_one_iff.mp cut
  refine ⟨⟨nonempty, plain⟩, ⟨header, notice, divided⟩, aligned, ?_⟩
  rw [same]
  decide

end Table

end Report

end RecordQuery
