import RowPayload.Proofs.Engine.Statements
import RowPayload.Proofs.Lifecycle.Binding
import RowPayload.Proofs.Record.Rebuilding

/-!
# What the query for the handle shows

Where every property of a descriptor is stored in a bracketed column of a table, the query for the
handle is accepted for every condition. It shows the path locator of each row that meets the
condition, the token of the transaction and the values of the mapped columns under the names that
the table has for them. A property finds its own value there, whatever the case of its letters, if
its column has a name at all: computed items have none.
-/

namespace RowPayload

open Engine Sql

/-! ## Layouts -/

/-- How the properties of a descriptor are laid out in a table. -/
structure Descriptor.Layout (descriptor : Descriptor) (table : Table) where
  tableTokens : List Token
  tableParts : List String
  /-- The table of the descriptor is written as a name. -/
  table_read : tokenize descriptor.table = .ok tableTokens
  table_spelled : IsName tableTokens tableParts
  /-- The place of the column of each property. -/
  place : String → Nat
  stored : ∀ property, descriptor.columns.contains property = true →
    descriptor.StoredAt table property (place property)

/-- The name of the column at a place. -/
def Engine.Table.columnName (table : Table) (place : Nat) : String :=
  (table.columns[place]?.map TableColumn.name).getD ""

/-- A column that is found has the letters of what was asked for. -/
theorem Engine.Table.sameLetters_of_columnIndex {table : Table} {column : String} {index : Nat}
    (found : table.columnIndex column = .ok index) :
    Text.sameLetters (table.columnName index) (Bracket.strip column) = true := by
  obtain ⟨inside, same, -⟩ :=
    List.findIdx?_eq_some_iff_getElem.1 (columnIndex_eq_ok_iff.1 found)
  rw [columnName, List.getElem?_eq_getElem inside]
  exact same

/-- If a column that one name finds has the letters of another name, that finds it too. -/
theorem Engine.Table.columnIndex_unique {table : Table} {name other : String}
    {index elsewhere : Nat} (found : table.columnIndex name = .ok index)
    (foundToo : table.columnIndex other = .ok elsewhere)
    (same : Text.sameLetters (table.columnName elsewhere) (Bracket.strip name) = true) :
    elsewhere = index := by
  -- The two names have the same letters, so the first columns with them are one.
  have letters : Text.lower (Bracket.strip other).toList = Text.lower (Bracket.strip name).toList :=
    (eq_of_beq (sameLetters_of_columnIndex foundToo)).symm.trans (eq_of_beq same)
  rw [columnIndex_eq_ok_iff] at found foundToo
  simp only [Text.sameLetters, letters] at found foundToo
  exact Option.some.inj (foundToo.symm.trans found)

/-- A key that has a value is listed with it. -/
theorem OrderedMap.mem_of_get? {κ α : Type} [DecidableEq κ] {map : OrderedMap κ α} {key : κ}
    {value : α} (known : map.get? key = some value) : (key, value) ∈ map.entries := by
  have listed : ∀ entries : List (κ × α), find? key entries = some value →
      (key, value) ∈ entries := by
    intro entries found
    induction entries with
    | nil => cases found
    | cons entry rest inductionHypothesis =>
      obtain ⟨other, held⟩ := entry
      rw [find?] at found
      split at found
      · rename_i same
        cases same
        cases found
        exact List.mem_cons_self
      · exact List.mem_cons_of_mem _ (inductionHypothesis found)
  exact listed map.entries known

/-- A property that has a column is mapped. -/
theorem OrderedMap.contains_of_get? {κ α : Type} [DecidableEq κ] {map : OrderedMap κ α} {key : κ}
    {value : α} (known : map.get? key = some value) : map.contains key = true := by
  rw [contains, known, Option.isSome_some]

namespace Descriptor

variable {descriptor : Descriptor} {table : Table} {property other : String} {place elsewhere : Nat}

/-- A property that is stored is mapped to the name of its column in brackets, is found under this
name, and the table has the same name for it but for the case of its letters. -/
theorem StoredAt.named (stored : descriptor.StoredAt table property place) :
    ∃ name : String, descriptor.columns.get? property = some ("[" ++ name ++ "]") ∧
      ']' ∉ name.toList ∧ table.columnIndex name = .ok place ∧
      Text.sameLetters (table.columnName place) name = true := by
  obtain ⟨name, mapped, closed, found⟩ := stored
  have placed := Table.columnIndex_of_findIdx? closed found
  refine ⟨name, mapped, closed, placed, ?_⟩
  rw [← Bracket.strip_of_not_mem closed]
  exact Table.sameLetters_of_columnIndex placed

/-- The column of one property does not have the name of another's unless it is the same. -/
theorem StoredAt.place_eq (stored : descriptor.StoredAt table property place)
    (also : descriptor.StoredAt table other elsewhere) {name : String}
    (mapped : descriptor.columns.get? property = some ("[" ++ name ++ "]"))
    (same : Text.sameLetters (table.columnName elsewhere) name = true) : elsewhere = place := by
  obtain ⟨own, ownMapped, closed, found, -⟩ := stored.named
  obtain rfl : own = name := by
    rw [mapped] at ownMapped
    have equal := congrArg Bracket.strip (Option.some.inj ownMapped)
    rw [Bracket.strip_enclosed, Bracket.strip_enclosed] at equal
    exact equal.symm
  obtain ⟨_, -, -, foundElsewhere, -⟩ := also.named
  refine Table.columnIndex_unique found foundElsewhere ?_
  rwa [Bracket.strip_of_not_mem closed]

namespace Layout

variable (layout : descriptor.Layout table)

/-- The place of a property that is mapped. -/
theorem stored_of_get? {column : String} (mapped : descriptor.columns.get? property = some column) :
    descriptor.StoredAt table property (layout.place property) :=
  layout.stored property (OrderedMap.contains_of_get? mapped)

include layout in
/-- The column of a property is one token, its name. -/
theorem column_read {column : String} (mapped : descriptor.columns.get? property = some column) :
    tokenize column = .ok [.quoted (Bracket.strip column)] := by
  obtain ⟨name, known, closed, -⟩ := (layout.stored_of_get? mapped).named
  rw [mapped] at known
  cases known
  rw [Bracket.strip_enclosed]
  exact tokenize_bracketed closed

/-- The column of a property is found by its name. -/
theorem columnIndex {column : String} (mapped : descriptor.columns.get? property = some column) :
    table.columnIndex (Bracket.strip column) = .ok (layout.place property) := by
  obtain ⟨name, known, -, found, -⟩ := (layout.stored_of_get? mapped).named
  rw [mapped] at known
  cases known
  rw [Bracket.strip_enclosed]
  exact found

/-- The table and the columns of a descriptor that is laid out are names. -/
def naming : Lifecycle.Naming descriptor where
  tableTokens := layout.tableTokens
  tableParts := layout.tableParts
  table_read := layout.table_read
  table_spelled := layout.table_spelled
  payloadTokens := [.quoted (Bracket.strip descriptor.payloadColumn)]
  payloadParts := [Bracket.strip descriptor.payloadColumn]
  payload_read := layout.column_read descriptor.payload_mapped
  payload_spelled := .last (.quoted _)
  columns_spelled _ _ mapped := ⟨_, _, layout.column_read mapped, .last (.quoted _)⟩

/-- The name that the table is filed under. -/
def file : String := fileName layout.naming.table

/-- The payload column is found at the place of the payload property. -/
theorem payload_columnIndex :
    table.columnIndex layout.naming.payload = .ok (layout.place descriptor.payload) :=
  layout.columnIndex descriptor.payload_mapped

end Layout

end Descriptor

/-! ## The query -/

namespace Descriptor.Layout

variable {descriptor : Descriptor} {table : Table} (layout : descriptor.Layout table)

/-- What the query for the handle shows of a row: its path locator, the token, and the mapped
columns but for the payload. -/
def items : List SelectItem :=
  .pathName layout.naming.payload :: .transactionContext ::
    descriptor.scalarColumns.map fun entry => .column (Bracket.strip entry.2)

/-- A mapped column but for the payload is that of a property. -/
theorem mapped_of_scalar {entry : String × String} (shown : entry ∈ descriptor.scalarColumns) :
    descriptor.columns.get? entry.1 = some entry.2 :=
  OrderedMap.get?_of_mem (List.mem_filter.1 shown).1

/-- The tokens of what the query for the handle shows spell its items. -/
theorem items_spelled : IsList IsItem (layout.naming.shownTokens
    (descriptor.scalarColumns.map fun entry => [.quoted (Bracket.strip entry.2)]))
    layout.items := by
  have isContext : IsItem
      [.word "GET_FILESTREAM_TRANSACTION_CONTEXT", .leftParen, .rightParen] .transactionContext :=
    .context (by cbv)
  have following (first : List Token) (item : SelectItem) (isFirst : IsItem first item) :
      ∀ entries : List (String × String), IsList IsItem
        (first ++ (entries.map fun entry => [.quoted (Bracket.strip entry.2)]).flatMap
          (Token.comma :: ·))
        (item :: entries.map fun entry => .column (Bracket.strip entry.2)) := by
    intro entries
    induction entries generalizing first item with
    | nil => simpa using IsList.last isFirst
    | cons entry rest inductionHypothesis =>
      have isColumn : IsItem [.quoted (Bracket.strip entry.2)] (.column (Bracket.strip entry.2)) :=
        .column (.ofName (.last (.quoted _))) rfl
      have others := inductionHypothesis _ _ isColumn
      simpa using IsList.more isFirst others
  have asked : asksForPath [Bracket.strip descriptor.payloadColumn, "PathName"]
      (some .leftParen) = true := by
    have same : Text.sameLetters "PathName" "PathName" = true := by decide
    simp [asksForPath, same]
  have isPath : IsItem ([.quoted (Bracket.strip descriptor.payloadColumn), .dot,
      .word "PathName"] ++ [.leftParen, .rightParen]) (.pathName (Bracket.strip descriptor.payloadColumn)) :=
    IsItem.path (.more (.quoted _) (.last (.word _))) rfl asked
  have isList := IsList.more isPath (following _ _ isContext descriptor.scalarColumns)
  exact isList

/-- **The query for the handle is accepted**, whatever condition its clause spells. -/
theorem handleQuery_parse {filter : Clause} {condition : Condition} {semicolons : Nat}
    (spells : filter.Spells condition semicolons) :
    parse (Lifecycle.handleQuery descriptor filter true).sql =
      .ok (.select ⟨layout.items, layout.naming.table, some condition⟩) := by
  obtain ⟨names, each, -, tokensAll⟩ := layout.naming.handleQuery_read filter true
  obtain rfl : names = descriptor.scalarColumns.map fun entry =>
      [.quoted (Bracket.strip entry.2)] := by
    have columns : (descriptor.scalarColumns.map Prod.snd).map tokenize =
        (descriptor.scalarColumns.map fun entry => [Token.quoted (Bracket.strip entry.2)]).map
          Except.ok := by
      rw [List.map_map, List.map_map]
      exact List.map_congr_left fun entry shown => layout.column_read (mapped_of_scalar shown)
    exact (List.map_injective_iff.2 fun _ _ => Except.ok.inj) (each.symm.trans columns)
  have isSelection : IsSelection (layout.naming.shownTokens (descriptor.scalarColumns.map
        fun entry => [.quoted (Bracket.strip entry.2)]) ++ .word "FROM" ::
          (layout.naming.tableTokens ++ .word "WHERE" :: spells.tokens))
      ⟨layout.items, layout.naming.table, some condition⟩ :=
    .mk layout.items_spelled (by cbv) layout.naming.table_spelled spells.filter_spelled
  have isSelect : (Token.word "SELECT").isKeyword "SELECT" = true := by cbv
  have isStatement := IsStatement.select isSelect isSelection
  rw [spells.read] at tokensAll
  have whole := isStatement.readWhole semicolons
  rw [parse, tokensAll]
  simpa [bind, Except.bind, Except.map] using whole

/-- The names of what is shown. -/
def names : List String :=
  "" :: "" :: descriptor.scalarColumns.map fun entry => table.columnName (layout.place entry.1)

/-- The values that are shown of a row, with a token. -/
def values (token : Bytes) (row : TableRow) : List Value :=
  .text (Locator.write table.name row.id) :: .bytes token ::
    descriptor.scalarColumns.map fun entry => row.cell (layout.place entry.1)

/-- The items are shown under their names. -/
theorem items_named : layout.items.mapM (Scene.itemName table) = .ok layout.names := by
  have columns : (descriptor.scalarColumns.map fun entry => SelectItem.column
      (Bracket.strip entry.2)).mapM (Scene.itemName table) =
        .ok (descriptor.scalarColumns.map fun entry =>
          table.columnName (layout.place entry.1)) := by
    rw [List.mapM_map]
    refine Checked.mapM_ok fun entry shown => ?_
    have found := layout.columnIndex (mapped_of_scalar shown)
    show (Scene.itemName table (.column (Bracket.strip entry.2))) = _
    rw [Scene.itemName, found]
    rfl
  rw [items, List.mapM_cons, List.mapM_cons, columns]
  rfl

/-- The items show the values of a row whose payload is there, in a column for payloads. -/
theorem items_shown {scene : Scene} {token : Bytes} (given : scene.token = some token)
    (holdsPayloads : (table.columns[layout.place descriptor.payload]?.map
      TableColumn.isPayload).getD false = true) {row : TableRow}
    (present : (row.cell (layout.place descriptor.payload)).isNull = false) :
    layout.items.mapM (scene.project table row) = .ok (layout.values token row) := by
  have columns : (descriptor.scalarColumns.map fun entry => SelectItem.column
      (Bracket.strip entry.2)).mapM (scene.project table row) =
        .ok (descriptor.scalarColumns.map fun entry => row.cell (layout.place entry.1)) := by
    rw [List.mapM_map]
    refine Checked.mapM_ok fun entry shown => ?_
    have found := layout.columnIndex (mapped_of_scalar shown)
    show scene.project table row (.column (Bracket.strip entry.2)) = _
    rw [Scene.project, columnValue, found]
    rfl
  have path : scene.project table row (.pathName layout.naming.payload) =
      .ok (.text (Locator.write table.name row.id)) := by
    rw [Scene.project, Scene.pathName, layout.payload_columnIndex]
    simp only [bind, Except.bind, holdsPayloads, if_true, present]
    rfl
  have context : scene.project table row .transactionContext = .ok (.bytes token) := by
    rw [Scene.project, given]
    rfl
  rw [items, List.mapM_cons, path, List.mapM_cons, context, columns]
  rfl

/-- **The query for the handle shows the row that is picked out**, and no other. -/
theorem select_pickedOut {scene : Scene} {token : Bytes} (given : scene.token = some token)
    (found : scene.table layout.naming.table = .ok table) (sound : table.Sound)
    (holdsPayloads : (table.columns[layout.place descriptor.payload]?.map
      TableColumn.isPayload).getD false = true) {row : TableRow} (member : row ∈ table.rows)
    (present : (row.cell (layout.place descriptor.payload)).isNull = false)
    {condition : Condition}
    (tells : scene.Tells table condition fun other => decide (other.id = row.id)) :
    ∃ result, scene.select ⟨layout.items, layout.naming.table, some condition⟩ = .ok result ∧
      result.first? = some ⟨layout.names, layout.values token row⟩ := by
  have numbered := sound.row?_of_mem member
  have projects : ∀ other ∈ table.rows, decide (other.id = row.id) = true →
      layout.items.mapM (scene.project table other) = .ok (layout.values token other) := by
    intro other inside same
    obtain rfl : other = row := by
      have isOther := sound.row?_of_mem inside
      rw [of_decide_eq_true same, numbered] at isOther
      exact (Option.some.inj isOther).symm
    exact layout.items_shown given holdsPayloads present
  refine ⟨_, Scene.select_of_tells found layout.items_named tells projects, ?_⟩
  have first : (table.rows.filter fun other => decide (other.id = row.id)).head? = some row := by
    rw [List.head?_filter]
    exact numbered
  simp [ResultSet.first?, ResultSet.toRows, first]

/-- **A property finds its own value** in what is shown of a row, if its column has a name. -/
theorem value?_shown (token : Bytes) (row : TableRow) {property column : String}
    (mapped : descriptor.columns.get? property = some column)
    (other : property ≠ descriptor.payload) (named : column ≠ "[]") :
    ResultRow.value? ⟨layout.names, layout.values token row⟩ (Bracket.strip column) =
      some (row.cell (layout.place property)) := by
  have stored := layout.stored_of_get? mapped
  obtain ⟨name, known, -, -, same⟩ := stored.named
  rw [mapped] at known
  cases known
  rw [Bracket.strip_enclosed]
  have nonempty : Text.sameLetters "" name = false := by
    refine beq_eq_false_iff_ne.2 fun same => named ?_
    have empty : name.toList = [] := by
      simpa [Text.lower] using same.symm
    rw [String.toList_eq_nil_iff.1 empty]
    rfl
  refine ResultRow.value?_of_all ⟨_, ?_, same⟩ fun place shown found letters => ?_
  · refine List.mem_cons_of_mem _ (List.mem_cons_of_mem _ ?_)
    refine List.mem_map.2 ⟨(property, "[" ++ name ++ "]"), List.mem_filter.2 ⟨?_, ?_⟩, rfl⟩
    · exact OrderedMap.mem_of_get? mapped
    · simpa using other
  · rcases place with _ | _ | place
    · cases found
      rw [nonempty] at letters
      cases letters
    · cases found
      rw [nonempty] at letters
      cases letters
    · have listed : (descriptor.scalarColumns.map fun entry =>
          table.columnName (layout.place entry.1))[place]? = some shown := found
      rw [List.getElem?_map, Option.map_eq_some_iff] at listed
      obtain ⟨entry, at', rfl⟩ := listed
      have isMapped := mapped_of_scalar (List.mem_of_getElem? at')
      have places := stored.place_eq (layout.stored_of_get? isMapped) mapped letters
      show (descriptor.scalarColumns.map fun entry => row.cell (layout.place entry.1))[place]? = _
      rw [List.getElem?_map, at', Option.map_some, places]

end Descriptor.Layout

end RowPayload
