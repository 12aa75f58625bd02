import DeployService.Command.Applications
import DeployService.Command.Operations
import DeployService.Proofs.Traffic
import DeployService.Proofs.Trimming
import DeployService.Text.Utf8
import Mathlib

/-!
# The layout of tables

The width of a column is the largest size of one of its cells in bytes (`AreWidths`), but cells are
filled up by characters. No text has more characters than bytes, so that a cell is never wider than
its column (`length_le_utf8ByteSize`). In a row that is written in this way each cell stands in full
where its column begins, and there are three spaces at least before the next one (`IsAligned`). Where
a column begins depends on the widths only, and is the same in all lines of the table.

A width is formatted as a number of 16 bits, although nothing limits the size of a cell. If one cell
is too large (`Fits`), its column is too wide for the header, and not even that is printed
(`print_eq`).
-/

namespace DeployService.Table

open DeployService.Text

/-! ## Bytes and characters -/

theorem utf8ByteSize_eq (s : String) : s.utf8ByteSize = (Utf8.encode s).length := by
  have hbytes : s.toByteArray = (Utf8.encode s).toByteArray := by
    rw [← String.utf8Encode_toList]
    rfl
  rw [← String.size_toByteArray, hbytes, List.size_toByteArray]

theorem length_le_utf8ByteSize (s : String) : s.length ≤ s.utf8ByteSize := by
  rw [utf8ByteSize_eq, Utf8.encode, Utf8.encodeChars, ← String.length_toList]
  induction s.toList with
  | nil => exact Nat.zero_le _
  | cons c cs ih =>
    have hc : 1 ≤ (String.utf8EncodeChar c).length := by
      rw [String.length_utf8EncodeChar]
      exact c.utf8Size_pos
    rw [List.flatMap_cons, List.length_append, List.length_cons]
    omega

/-! ## Widths -/

/-- The sizes in bytes of the cells of a column. -/
def sizes (table : List (List String)) (i : Nat) : Set Nat :=
  {n | ∃ row ∈ table, ∃ cell, row[i]? = some cell ∧ cell.utf8ByteSize = n}

/-- Every row of the table has as many cells as there are widths, and each width is the largest size
of a cell in its column. -/
structure AreWidths (table : List (List String)) (ws : List Nat) : Prop where
  length : ∀ row ∈ table, row.length = ws.length
  greatest : ∀ i w, ws[i]? = some w → IsGreatest (sizes table i) w

theorem sizes_append (table table' : List (List String)) (i : Nat) :
    sizes (table ++ table') i = sizes table i ∪ sizes table' i := by
  ext n
  constructor
  · rintro ⟨row, hrow, hcell⟩
    rcases List.mem_append.mp hrow with hrow | hrow
    · exact .inl ⟨row, hrow, hcell⟩
    · exact .inr ⟨row, hrow, hcell⟩
  · rintro (⟨row, hrow, hcell⟩ | ⟨row, hrow, hcell⟩)
    · exact ⟨row, List.mem_append_left _ hrow, hcell⟩
    · exact ⟨row, List.mem_append_right _ hrow, hcell⟩

theorem sizes_row {row : List String} {i : Nat} {cell : String} (h : row[i]? = some cell) :
    sizes [row] i = {cell.utf8ByteSize} := by
  ext n
  simp [sizes, h, eq_comm]

theorem areWidths_header (header : List String) :
    AreWidths [header] (header.map String.utf8ByteSize) where
  length row hrow := by rw [List.mem_singleton.mp hrow, List.length_map]
  greatest i w hw := by
    rw [List.getElem?_map, Option.map_eq_some_iff] at hw
    obtain ⟨cell, hcell, rfl⟩ := hw
    rw [sizes_row hcell]
    exact isGreatest_singleton

theorem widen_eq {ws : List Nat} {row : List String} (h : row.length = ws.length) :
    widen ws row = List.zipWith (fun w cell => max w cell.utf8ByteSize) ws row := by
  induction ws generalizing row with
  | nil =>
    obtain rfl := List.length_eq_zero_iff.mp h
    rfl
  | cons w ws ih =>
    cases row with
    | nil => cases h
    | cons cell row => rw [widen, ih (Nat.succ.inj h), List.zipWith_cons_cons]

/-- One row more. -/
theorem AreWidths.widen {table : List (List String)} {ws : List Nat} {row : List String}
    (h : AreWidths table ws) (hrow : row.length = ws.length) :
    AreWidths (table ++ [row]) (widen ws row) := by
  rw [widen_eq hrow]
  refine ⟨fun other hother => ?_, fun i m hm => ?_⟩
  · have hlength : (List.zipWith (fun w cell => max w cell.utf8ByteSize) ws row).length =
        ws.length := by rw [List.length_zipWith, hrow, Nat.min_self]
    rw [hlength]
    rcases List.mem_append.mp hother with hother | hother
    · exact h.length other hother
    · rw [List.mem_singleton.mp hother, hrow]
  · obtain ⟨w, cell, hw, hcell, rfl⟩ := List.getElem?_zipWith_eq_some.mp hm
    rw [sizes_append, sizes_row hcell]
    exact (h.greatest i w hw).union isGreatest_singleton

/-- All rows, by induction on them. -/
theorem AreWidths.foldl {table rows : List (List String)} {ws : List Nat} (h : AreWidths table ws)
    (hrows : ∀ row ∈ rows, row.length = ws.length) :
    AreWidths (table ++ rows) (rows.foldl Table.widen ws) := by
  induction rows generalizing table ws with
  | nil => rwa [List.append_nil]
  | cons row rows ih =>
    have hrow := hrows row List.mem_cons_self
    have hstep := h.widen hrow
    have hsame : ∀ other ∈ rows, other.length = (Table.widen ws row).length := by
      intro other hother
      rw [← hstep.length row (by simp), hrow]
      exact hrows other (List.mem_cons_of_mem row hother)
    rw [List.foldl_cons, ← List.singleton_append, ← List.append_assoc]
    exact ih hstep hsame

theorem areWidths {header : List String} {rows : List (List String)}
    (h : ∀ row ∈ rows, row.length = header.length) :
    AreWidths (header :: rows) (widths header rows) := by
  refine (areWidths_header header).foldl fun row hrow => ?_
  rw [List.length_map]
  exact h row hrow

/-! ## Tables that can be printed -/

/-- Every cell can be filled up to the size of any other one. -/
def Fits (table : List (List String)) : Prop :=
  ∀ row ∈ table, ∀ cell ∈ row, cell.utf8ByteSize ≤ maxWidth

instance (table : List (List String)) : Decidable (Fits table) :=
  inferInstanceAs (Decidable (∀ row ∈ table, ∀ cell ∈ row, cell.utf8ByteSize ≤ maxWidth))

theorem AreWidths.fits_iff {table : List (List String)} {ws : List Nat} (h : AreWidths table ws) :
    Fits table ↔ ∀ w ∈ ws, w ≤ maxWidth := by
  constructor
  · intro hfits w hw
    obtain ⟨i, hi, rfl⟩ := List.getElem_of_mem hw
    obtain ⟨row, hrow, cell, hcell, hsize⟩ := (h.greatest i ws[i] (List.getElem?_eq_getElem hi)).1
    rw [← hsize]
    exact hfits row hrow cell (List.mem_of_getElem? hcell)
  · intro hws row hrow cell hcell
    obtain ⟨i, hi, rfl⟩ := List.getElem_of_mem hcell
    have hi' : i < ws.length := by rwa [← h.length row hrow]
    have hsize : row[i].utf8ByteSize ∈ sizes table i :=
      ⟨row, hrow, row[i], List.getElem?_eq_getElem hi, rfl⟩
    have hw := (h.greatest i ws[i] (List.getElem?_eq_getElem hi')).2 hsize
    exact hw.trans (hws ws[i] (List.getElem_mem hi'))

/-- The characters of a row with every cell filled up to the width of its column. -/
def filledRow (ws : List Nat) (cells : List String) : List Char :=
  gap.intercalate ((cells.zip ws).map fun (cell, w) => filled w cell)

/-- The line of a row. -/
def lineText (ws : List Nat) (cells : List String) : String :=
  String.ofList (trimEnd (filledRow ws cells))

/-- Cells are filled up unless one of them has to be filled up too far. -/
theorem mapM_padRight (cells : List (String × Nat)) :
    (cells.mapM fun (cell, w) => padRight w cell) =
      if ∀ p ∈ cells, p.2 ≤ maxWidth then .ok (cells.map fun (cell, w) => filled w cell)
      else .error widthOutOfRange := by
  induction cells with
  | nil => rfl
  | cons p cells ih =>
    obtain ⟨cell, w⟩ := p
    have hcons : (∀ p ∈ (cell, w) :: cells, p.2 ≤ maxWidth) ↔
        w ≤ maxWidth ∧ ∀ p ∈ cells, p.2 ≤ maxWidth := List.forall_mem_cons
    rw [List.mapM_cons, ih]
    dsimp only
    rw [padRight]
    by_cases hw : w ≤ maxWidth
    · by_cases hcells : ∀ p ∈ cells, p.2 ≤ maxWidth
      · rw [if_pos hw, if_pos hcells, if_pos (hcons.mpr ⟨hw, hcells⟩)]
        rfl
      · rw [if_pos hw, if_neg hcells, if_neg fun h => hcells (hcons.mp h).2]
        rfl
    · rw [if_neg hw, if_neg fun h => hw (hcons.mp h).1]
      rfl

theorem line_eq {ws : List Nat} {cells : List String} (h : cells.length = ws.length) :
    line ws cells =
      if ∀ w ∈ ws, w ≤ maxWidth then .ok (lineText ws cells) else .error widthOutOfRange := by
  have hwidths : (∀ p ∈ cells.zip ws, p.2 ≤ maxWidth) ↔ ∀ w ∈ ws, w ≤ maxWidth := by
    rw [← List.forall_mem_map (f := Prod.snd) (P := (· ≤ maxWidth)), List.map_snd_zip h.ge]
  unfold line rowChars
  rw [mapM_padRight]
  by_cases hfits : ∀ w ∈ ws, w ≤ maxWidth
  · rw [if_pos (hwidths.mpr hfits), if_pos hfits]
    rfl
  · rw [if_neg (mt hwidths.mp hfits), if_neg hfits]
    rfl

/-- All rows are printed, by induction on them. -/
theorem printRows_eq {σ : Type} {ws : List Nat} (hws : ∀ w ∈ ws, w ≤ maxWidth)
    {rows : List (List String)} (hrows : ∀ row ∈ rows, row.length = ws.length) (c : Console σ) :
    printRows ws rows c = (.ok (), { c with lines := c.lines ++ rows.map (lineText ws) }) := by
  induction rows generalizing c with
  | nil =>
    rw [List.map_nil, List.append_nil]
    rfl
  | cons row rows ih =>
    obtain ⟨hrow, hrows⟩ := List.forall_mem_cons.mp hrows
    have hline : Call.ofExcept (line ws row) c = (.ok (lineText ws row), c) := by
      rw [line_eq hrow, if_pos hws]
      rfl
    have hsay : Console.say (lineText ws row) c =
        (.ok (), { c with lines := c.lines ++ [lineText ws row] }) := rfl
    rw [printRows, Call.bind_ok hline, Call.bind_ok hsay, ih hrows, List.map_cons]
    simp only [List.append_assoc, List.singleton_append]

/-- A table is printed as a whole, or else the program cannot go on: the header has a cell in the
column that is too wide, so that nothing of the table is printed. -/
theorem print_eq {σ : Type} {header : List String} {rows : List (List String)}
    (h : ∀ row ∈ rows, row.length = header.length) (c : Console σ) :
    Table.print header rows c =
      if Fits (header :: rows) then
        (.ok (), { c with
          lines := c.lines ++ (header :: rows).map (lineText (widths header rows)) })
      else (.error widthOutOfRange, c) := by
  have hwidths := areWidths h
  unfold Table.print
  by_cases hfits : Fits (header :: rows)
  · rw [if_pos hfits]
    exact printRows_eq (hwidths.fits_iff.mp hfits) hwidths.length c
  · have hline : Call.ofExcept (line (widths header rows) header) c =
        (.error widthOutOfRange, c) := by
      rw [line_eq (hwidths.length header List.mem_cons_self), if_neg (mt hwidths.fits_iff.mpr hfits)]
      rfl
    rw [if_neg hfits, printRows, Call.bind_error hline]

/-! ## Rows -/

/-- Where a column begins, for columns of the given widths: behind the columns before it and three
spaces for each of them. -/
def offset (ws : List Nat) (i : Nat) : Nat := ((ws.take i).map (· + 3)).sum

/-- The cells of a row stand in columns of the given widths. Each one stands in full where its column
begins, and up to the next column there are only spaces, at least three; behind the last cell there
are only spaces. -/
structure IsAligned (ws : List Nat) (cells : List String) (chars : List Char) : Prop where
  length : chars.length = offset ws cells.length - 3
  cell_at : ∀ i cell, cells[i]? = some cell → ∃ before spaces after,
    chars = before ++ cell.toList ++ List.replicate spaces ' ' ++ after ∧
      before.length = offset ws i ∧
      (i + 1 < cells.length →
        3 ≤ spaces ∧ before.length + cell.length + spaces = offset ws (i + 1)) ∧
      (i + 1 = cells.length → after = [])

theorem offset_zero (ws : List Nat) : offset ws 0 = 0 := rfl

theorem offset_succ (w : Nat) (ws : List Nat) (i : Nat) :
    offset (w :: ws) (i + 1) = w + 3 + offset ws i := by
  rw [offset, List.take_succ_cons, List.map_cons, List.sum_cons]
  rfl

theorem length_filled {w : Nat} {cell : String} (h : cell.length ≤ w) :
    (filled w cell).length = w := by
  rw [filled, List.length_append, List.length_replicate, String.length_toList]
  omega

theorem IsAligned.nil (ws : List Nat) : IsAligned ws [] [] :=
  ⟨by simp [offset_zero], by simp⟩

/-- The only cell of a row. -/
theorem IsAligned.single {w : Nat} {cell : String} (h : cell.length ≤ w) :
    IsAligned [w] [cell] (filled w cell) where
  length := by
    rw [length_filled h, List.length_singleton, offset_succ, offset_zero]
    omega
  cell_at i other hother := by
    obtain ⟨rfl, rfl⟩ : i = 0 ∧ cell = other := by
      cases i with
      | zero => exact ⟨rfl, by simpa using hother⟩
      | succ i => simp at hother
    exact ⟨[], w - cell.length, [], by simp [filled], rfl, by simp, fun _ => rfl⟩

/-- One cell more, in front of a row that has cells. -/
theorem IsAligned.cons {w v : Nat} {ws : List Nat} {cell next : String} {cells : List String}
    {chars : List Char} (h : cell.length ≤ w) (hrow : IsAligned (v :: ws) (next :: cells) chars) :
    IsAligned (w :: v :: ws) (cell :: next :: cells) (filled w cell ++ gap ++ chars) where
  length := by
    have hgap : gap.length = 3 := rfl
    rw [List.length_append, List.length_append, length_filled h, hgap, hrow.length]
    simp only [List.length_cons, offset_succ]
    omega
  cell_at i other hother := by
    -- the new cell begins the row, and every other one moves by one column
    cases i with
    | zero =>
      obtain rfl : cell = other := by simpa using hother
      have hspaces : List.replicate (w - cell.length) ' ' ++ gap =
          List.replicate (w - cell.length + 3) ' ' := by
        rw [List.replicate_add]
        rfl
      refine ⟨[], w - cell.length + 3, chars, ?_, rfl, fun _ => ⟨by omega, ?_⟩, by simp⟩
      · rw [← hspaces, filled]
        simp only [List.nil_append, List.append_assoc]
      · rw [offset_succ, offset_zero, List.length_nil]
        omega
    | succ i =>
      obtain ⟨before, spaces, after, rfl, hbefore, hnext, hlast⟩ := hrow.cell_at i other
        (by simpa using hother)
      have hlength : (filled w cell ++ gap ++ before).length = offset (w :: v :: ws) (i + 1) := by
        have hgap : gap.length = 3 := rfl
        rw [List.length_append, List.length_append, length_filled h, hgap, hbefore, offset_succ]
      refine ⟨filled w cell ++ gap ++ before, spaces, after, ?_, hlength, ?_, ?_⟩
      · simp only [List.append_assoc]
      · intro hi
        obtain ⟨hthree, hoffset⟩ := hnext (by simpa using hi)
        refine ⟨hthree, ?_⟩
        rw [hlength, offset_succ, offset_succ, ← hoffset, hbefore]
        omega
      · intro hi
        exact hlast (by simpa using hi)

/-- A whole row, by induction on its cells. The last one is not followed by a gap. -/
theorem isAligned_filledRow {ws : List Nat} {cells : List String}
    (h : List.Forall₂ (fun w cell => String.length cell ≤ w) ws cells) :
    IsAligned ws cells (filledRow ws cells) := by
  induction h with
  | nil => exact .nil []
  | @cons w cell ws cells hcell hcells ih =>
    cases hcells with
    | nil =>
      have hrow : filledRow [w] [cell] = filled w cell := by simp [filledRow]
      rw [hrow]
      exact .single hcell
    | @cons v next ws cells hnext hcells =>
      have hrow : filledRow (w :: v :: ws) (cell :: next :: cells) =
          filled w cell ++ gap ++ filledRow (v :: ws) (next :: cells) := by
        simp [filledRow]
      rw [hrow]
      exact ih.cons hcell

/-- No cell of a table is wider than its column. -/
theorem AreWidths.lengths_le {table : List (List String)} {ws : List Nat} (h : AreWidths table ws)
    {row : List String} (hrow : row ∈ table) :
    List.Forall₂ (fun w cell => String.length cell ≤ w) ws row := by
  rw [List.forall₂_iff_get]
  refine ⟨(h.length row hrow).symm, fun i hi hi' => ?_⟩
  have hw := (h.greatest i ws[i] (List.getElem?_eq_getElem hi)).2
  have hsize : row[i].utf8ByteSize ∈ sizes table i :=
    ⟨row, hrow, row[i], List.getElem?_eq_getElem hi', rfl⟩
  exact (length_le_utf8ByteSize row[i]).trans (hw hsize)

/-! ## Tables -/

/-- The line consists of the characters without the blanks at their end. -/
structure IsLineOf (chars : List Char) (line : String) : Prop where
  blanks : ∃ blanks, chars = line.toList ++ blanks ∧ ∀ c ∈ blanks, isBlank c = true
  last : ∀ c ∈ line.toList.getLast?, isBlank c = false

theorem isLineOf_trimEnd (chars : List Char) : IsLineOf chars (String.ofList (trimEnd chars)) := by
  obtain ⟨blanks, hb, heq⟩ := eq_trimEnd_append chars
  rw [← String.toList_ofList (l := trimEnd chars)] at heq
  exact ⟨⟨blanks, heq, hb⟩, by rw [String.toList_ofList]; exact trimEnd_getLast chars⟩

/-- The lines are those of a table: one for each row in turn, the header being the first, and all of
them with the same columns. -/
def IsTable (table : List (List String)) (printed : List String) : Prop :=
  ∃ ws, AreWidths table ws ∧ List.Forall₂
    (fun row line => ∃ chars, IsAligned ws row chars ∧ IsLineOf chars line) table printed

theorem isTable_lineText {header : List String} {rows : List (List String)}
    (h : ∀ row ∈ rows, row.length = header.length) :
    IsTable (header :: rows) ((header :: rows).map (lineText (widths header rows))) := by
  have hwidths := areWidths h
  refine ⟨widths header rows, hwidths, ?_⟩
  rw [List.forall₂_map_right_iff, List.forall₂_same]
  intro row hrow
  exact ⟨filledRow (widths header rows) row, isAligned_filledRow (hwidths.lengths_le hrow),
    isLineOf_trimEnd _⟩

/-- **Columns stay aligned, unless a cell is too large.** A table whose rows have as many cells as
its header is printed below what was printed before: the header and then the rows in order, each
cell in full at the offset of its column, whatever characters the cells consist of. But if a cell has
more bytes than a text can be filled up to characters, nothing of the table is printed, and the
program cannot go on. -/
theorem tables_aligned {σ : Type} (c : Console σ) {header : List String}
    {rows : List (List String)} (h : ∀ row ∈ rows, row.length = header.length) :
    (Fits (header :: rows) → ∃ printed, Table.print header rows c =
        (.ok (), { c with lines := c.lines ++ printed }) ∧ IsTable (header :: rows) printed) ∧
      (¬Fits (header :: rows) → Table.print header rows c = (.error widthOutOfRange, c)) := by
  rw [print_eq h]
  refine ⟨fun hfits => ?_, fun hfits => if_neg hfits⟩
  rw [if_pos hfits]
  exact ⟨_, rfl, isTable_lineText h⟩

/-- Cells of several bytes a character, an empty one, and one that ends with blanks. -/
theorem accented_table_aligned :
    let rows := [["é€ü", "𝄞 x "], ["", "b"]]
    (∀ row ∈ rows, row.length = ["id", "größe"].length) ∧ Fits (["id", "größe"] :: rows) ∧
      (∃ printed, Table.print ["id", "größe"] rows (⟨(), ["OK"]⟩ : Console Unit) =
          (.ok (), ⟨(), ["OK"] ++ printed⟩) ∧ IsTable (["id", "größe"] :: rows) printed) ∧
      (Table.print ["id", "größe"] rows (⟨(), []⟩ : Console Unit)).2.lines =
        ["id        größe", "é€ü       𝄞 x", "          b"] := by
  intro rows
  have hrows : ∀ row ∈ rows, row.length = ["id", "größe"].length := by decide
  have hfits : Fits (["id", "größe"] :: rows) := by decide +kernel
  exact ⟨hrows, hfits, (tables_aligned ⟨(), ["OK"]⟩ hrows).1 hfits, by decide +kernel⟩

/-- A text of the given length. -/
def letters (n : Nat) : String := String.ofList (List.replicate n 'a')

theorem not_fits_of_letters {n : Nat} (hn : maxWidth < n) {table : List (List String)}
    {row : List String} (hrow : row ∈ table) (h : letters n ∈ row) : ¬Fits table := by
  intro hfits
  have hsize := (length_le_utf8ByteSize (letters n)).trans (hfits row hrow (letters n) h)
  rw [letters, String.length_ofList, List.length_replicate] at hsize
  omega

/-- A table with one cell, of which nothing is printed. -/
theorem oversized_table_not_printed :
    (∀ row ∈ [[letters (maxWidth + 1)]], row.length = ["mta id"].length) ∧
      ¬∃ printed c, Table.print ["mta id"] [[letters (maxWidth + 1)]] (⟨(), []⟩ : Console Unit) =
        (.ok (), c) ∧ IsTable [["mta id"], [letters (maxWidth + 1)]] printed := by
  have hrows : ∀ row ∈ [[letters (maxWidth + 1)]], row.length = ["mta id"].length := by
    intro row hrow
    rw [List.mem_singleton.mp hrow, List.length_singleton, List.length_singleton]
  have hfits : ¬Fits [["mta id"], [letters (maxWidth + 1)]] :=
    not_fits_of_letters (Nat.lt_succ_self maxWidth) (List.mem_cons_of_mem _ List.mem_cons_self)
      List.mem_cons_self
  refine ⟨hrows, ?_⟩
  rintro ⟨_, _, hprint, -⟩
  rw [print_eq hrows, if_neg hfits] at hprint
  cases hprint

end DeployService.Table
