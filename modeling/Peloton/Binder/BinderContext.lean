import Peloton.Type.TypeId

set_option autoImplicit false

namespace Peloton.Binder

open Peloton.Type

structure ColumnCatalogObject where
  column_name : String
  column_id : Nat
  column_type : TypeId
  deriving DecidableEq, Repr

-- The cached column_objects (by id) and column_names (by name) of a table are read off one list.
structure TableCatalogObject where
  database_oid : Nat
  table_oid : Nat
  columns : List ColumnCatalogObject
  deriving DecidableEq, Repr

def TableCatalogObject.GetColumnObject (table : TableCatalogObject) (column_name : String) :
    Option ColumnCatalogObject :=
  table.columns.find? (·.column_name == column_name)

def TableCatalogObject.GetColumnObjectById (table : TableCatalogObject) (column_id : Nat) :
    Option ColumnCatalogObject :=
  table.columns.find? (·.column_id == column_id)

-- A select-list item as AddNestedTable reads it: its alias, the column name where it is a
-- VALUE_TUPLE expression, and its value type.
structure SelectItem where
  «alias» : String
  tuple_column : Option String
  value_type : TypeId
  deriving DecidableEq, Repr

-- The alias maps are unordered_maps; a list stands for one iteration order of each.
structure BinderContext where
  regular_table_alias_map_ : List (String × TableCatalogObject)
  nested_table_alias_map_ : List (String × List (String × TypeId))
  depth_ : Int
  deriving DecidableEq, Repr

structure TupleValueExpression where
  column_name : String
  table_name : String
  value_type : TypeId
  bound_oid : Nat × Nat × Nat
  deriving DecidableEq, Repr

-- What a scope reports for a column: col_pos_tuple (left as the caller had it for a derived
-- table), the table alias and the value type.
structure ColumnMatch where
  col_pos_tuple : Option (Nat × Nat × Nat)
  table_alias : String
  value_type : TypeId
  deriving DecidableEq, Repr

namespace BinderContext

def assign {V : Type} (map : List (String × V)) (key : String) (value : V) : List (String × V) :=
  if map.any (·.1 == key) then map.map fun entry => if entry.1 == key then (key, value) else entry
  else map ++ [(key, value)]

def HasAlias (context : BinderContext) (table_alias : String) : Bool :=
  context.regular_table_alias_map_.any (·.1 == table_alias) ||
    context.nested_table_alias_map_.any (·.1 == table_alias)

def AddRegularTable (context : BinderContext) (table_alias : String) (table_object : TableCatalogObject) :
    Except String BinderContext :=
  if context.HasAlias table_alias then .error ("Duplicate alias " ++ table_alias)
  else .ok { context with
    regular_table_alias_map_ := assign context.regular_table_alias_map_ table_alias table_object }

def columnAlias (item : SelectItem) : Option String :=
  if !item.«alias».isEmpty then some item.«alias» else item.tuple_column

def columnAliasMap (select_list : List SelectItem) : List (String × TypeId) :=
  select_list.foldl (fun map item =>
    match columnAlias item with
    | some name => assign map name.toLower item.value_type
    | none => map) []

def AddNestedTable (context : BinderContext) (table_alias : String) (select_list : List SelectItem) :
    Except String BinderContext :=
  if context.HasAlias table_alias then .error ("Duplicate alias " ++ table_alias)
  else .ok { context with
    nested_table_alias_map_ := assign context.nested_table_alias_map_ table_alias (columnAliasMap select_list) }

def GetColumnPosTupleOfTable (col_name : String) (table_obj : TableCatalogObject) :
    Option ((Nat × Nat × Nat) × TypeId) :=
  (table_obj.GetColumnObject col_name).map fun column =>
    ((table_obj.database_oid, table_obj.table_oid, column.column_id), column.column_type)

def scanRegular (col_name : String) :
    Option ColumnMatch → List (String × TableCatalogObject) → Except String (Option ColumnMatch)
  | found, [] => .ok found
  | found, (table_alias, table) :: rest =>
    match GetColumnPosTupleOfTable col_name table with
    | none => scanRegular col_name found rest
    | some (pos, type) =>
      match found with
      | none => scanRegular col_name (some ⟨some pos, table_alias, type⟩) rest
      | some _ => .error ("Ambiguous column name " ++ col_name)

def scanNested (col_name : String) :
    Option ColumnMatch → List (String × List (String × TypeId)) → Except String (Option ColumnMatch)
  | found, [] => .ok found
  | found, (table_alias, columns) :: rest =>
    match columns.lookup col_name with
    | none => scanNested col_name found rest
    | some type =>
      match found with
      | none => scanNested col_name (some ⟨none, table_alias, type⟩) rest
      | some _ => .error ("Ambiguous column name " ++ col_name)

def scanContext (col_name : String) (context : BinderContext) : Except String (Option ColumnMatch) := do
  let found ← scanRegular col_name none context.regular_table_alias_map_
  scanNested col_name found context.nested_table_alias_map_

-- The contexts from current_context up the upper_context_ links; a match reports the depth.
def GetColumnPosTuple (col_name : String) : List BinderContext → Except String (Option (ColumnMatch × Int))
  | [] => .ok none
  | context :: upper => do
    match ← scanContext col_name context with
    | some matched => .ok (some (matched, context.depth_))
    | none => GetColumnPosTuple col_name upper

def regularColumns (table_alias : String) (table_obj : TableCatalogObject) : List TupleValueExpression :=
  (List.range table_obj.columns.length).filterMap fun i =>
    (table_obj.GetColumnObjectById i).map fun column =>
      ⟨column.column_name, table_alias, column.column_type,
        (table_obj.database_oid, table_obj.table_oid, column.column_id)⟩

def derivedColumns (table_alias : String) (columns : List (String × TypeId)) : List TupleValueExpression :=
  columns.map fun (name, type) => ⟨name, table_alias, type, (0, 0, 0)⟩

def GenerateAllColumnExpressions (context : BinderContext) : List TupleValueExpression :=
  context.regular_table_alias_map_.flatMap (fun (table_alias, table) => regularColumns table_alias table) ++
    context.nested_table_alias_map_.flatMap fun (table_alias, columns) => derivedColumns table_alias columns

/-! ## Scoping -/

def exposing (col_name : String) (context : BinderContext) : List ColumnMatch :=
  context.regular_table_alias_map_.filterMap (fun (table_alias, table) =>
      (GetColumnPosTupleOfTable col_name table).map fun (pos, type) => ⟨some pos, table_alias, type⟩) ++
    context.nested_table_alias_map_.filterMap fun (table_alias, columns) =>
      (columns.lookup col_name).map fun type => ⟨none, table_alias, type⟩

def firstMatch (col_name : String) : Option ColumnMatch → List ColumnMatch → Except String (Option ColumnMatch)
  | found, [] => .ok found
  | none, matched :: rest => firstMatch col_name (some matched) rest
  | some _, _ :: _ => .error ("Ambiguous column name " ++ col_name)

def innermostBinding (col_name : String) : List BinderContext → Except String (Option (ColumnMatch × Int))
  | [] => .ok none
  | context :: upper =>
    match exposing col_name context with
    | [] => innermostBinding col_name upper
    | [matched] => .ok (some (matched, context.depth_))
    | _ :: _ :: _ => .error ("Ambiguous column name " ++ col_name)

theorem scanRegular_eq_firstMatch (col_name : String) (found : Option ColumnMatch)
    (entries : List (String × TableCatalogObject)) :
    scanRegular col_name found entries = firstMatch col_name found (entries.filterMap fun (table_alias, table) =>
      (GetColumnPosTupleOfTable col_name table).map fun (pos, type) => ⟨some pos, table_alias, type⟩) := by
  induction entries generalizing found with
  | nil => cases found <;> rfl
  | cons entry rest ih =>
    obtain ⟨table_alias, table⟩ := entry
    cases matched : GetColumnPosTupleOfTable col_name table with
    | none => simp [scanRegular, matched, ih]
    | some result => cases found <;> simp [scanRegular, matched, ih, firstMatch]

theorem scanNested_eq_firstMatch (col_name : String) (found : Option ColumnMatch)
    (entries : List (String × List (String × TypeId))) :
    scanNested col_name found entries = firstMatch col_name found (entries.filterMap fun (table_alias, columns) =>
      (columns.lookup col_name).map fun type => ⟨none, table_alias, type⟩) := by
  induction entries generalizing found with
  | nil => cases found <;> rfl
  | cons entry rest ih =>
    obtain ⟨table_alias, columns⟩ := entry
    cases matched : columns.lookup col_name with
    | none => simp [scanNested, matched, ih]
    | some type => cases found <;> simp [scanNested, matched, ih, firstMatch]

theorem firstMatch_append (col_name : String) (found : Option ColumnMatch) (first second : List ColumnMatch) :
    (firstMatch col_name found first >>= fun found => firstMatch col_name found second) =
      firstMatch col_name found (first ++ second) := by
  induction first generalizing found with
  | nil => rfl
  | cons matched rest ih => cases found <;> simp [firstMatch, ih]; rfl

theorem firstMatch_none (col_name : String) (matches_ : List ColumnMatch) :
    firstMatch col_name none matches_ = match matches_ with
      | [] => .ok none
      | [matched] => .ok (some matched)
      | _ :: _ :: _ => .error ("Ambiguous column name " ++ col_name) := by
  rcases matches_ with _ | ⟨matched, _ | ⟨_, _⟩⟩ <;> rfl

theorem scanContext_eq (col_name : String) (context : BinderContext) :
    scanContext col_name context = firstMatch col_name none (exposing col_name context) := by
  simp only [scanContext, scanRegular_eq_firstMatch, scanNested_eq_firstMatch, exposing]
  exact firstMatch_append col_name none _ _

theorem getColumnPosTuple_eq_innermostBinding (col_name : String) (contexts : List BinderContext) :
    GetColumnPosTuple col_name contexts = innermostBinding col_name contexts := by
  induction contexts with
  | nil => rfl
  | cons context upper ih =>
    rw [GetColumnPosTuple, scanContext_eq, firstMatch_none]
    rcases exposing_eq : exposing col_name context with _ | ⟨matched, _ | ⟨_, _⟩⟩ <;>
      simp [innermostBinding, exposing_eq, ih] <;> rfl

/-! ## SELECT * -/

theorem generateAllColumnExpressions_of_one_each (depth : Int) (table_alias derived_alias : String)
    (table_obj : TableCatalogObject) (columns : List (String × TypeId)) :
    GenerateAllColumnExpressions ⟨[(table_alias, table_obj)], [(derived_alias, columns)], depth⟩ =
      regularColumns table_alias table_obj ++ derivedColumns derived_alias columns := by
  simp [GenerateAllColumnExpressions]

-- FROM (subquery) d, t: the visitor adds d, then t; SELECT * lists t's columns first, whatever
-- order the two unordered_maps iterate in, since each holds one table.
theorem select_star_lists_regular_before_derived (depth : Int) (d t : String) (distinct : t ≠ d)
    (select_list : List SelectItem) (table_obj : TableCatalogObject) :
    ((⟨[], [], depth⟩ : BinderContext).AddNestedTable d select_list >>= fun context =>
        context.AddRegularTable t table_obj) =
      .ok ⟨[(t, table_obj)], [(d, columnAliasMap select_list)], depth⟩ ∧
    GenerateAllColumnExpressions ⟨[(t, table_obj)], [(d, columnAliasMap select_list)], depth⟩ =
      regularColumns t table_obj ++ derivedColumns d (columnAliasMap select_list) := by
  refine ⟨?_, generateAllColumnExpressions_of_one_each depth t d table_obj _⟩
  simp [AddNestedTable, AddRegularTable, HasAlias, assign, Ne.symm distinct, bind, Except.bind]

theorem select_star_lists_regular_before_derived_of_one_column :
    "t" ≠ "d" ∧
      (((⟨[], [], 0⟩ : BinderContext).AddNestedTable "d" [⟨"x", none, .INTEGER⟩] >>= fun context =>
          context.AddRegularTable "t" ⟨1, 2, [⟨"y", 0, .INTEGER⟩]⟩) =
        .ok ⟨[("t", ⟨1, 2, [⟨"y", 0, .INTEGER⟩]⟩)], [("d", columnAliasMap [⟨"x", none, .INTEGER⟩])], 0⟩ ∧
      GenerateAllColumnExpressions
          ⟨[("t", ⟨1, 2, [⟨"y", 0, .INTEGER⟩]⟩)], [("d", columnAliasMap [⟨"x", none, .INTEGER⟩])], 0⟩ =
        regularColumns "t" ⟨1, 2, [⟨"y", 0, .INTEGER⟩]⟩ ++
          derivedColumns "d" (columnAliasMap [⟨"x", none, .INTEGER⟩])) ∧
      (GenerateAllColumnExpressions
          ⟨[("t", ⟨1, 2, [⟨"y", 0, .INTEGER⟩]⟩)], [("d", columnAliasMap [⟨"x", none, .INTEGER⟩])], 0⟩).map
        (·.table_name) = ["t", "d"] :=
  ⟨by decide, select_star_lists_regular_before_derived 0 "d" "t" (by decide) _ _, by decide⟩

example : (columnAliasMap [⟨"a", none, .INTEGER⟩, ⟨"A", none, .VARCHAR⟩]).length = 1 := by decide +kernel

end BinderContext

end Peloton.Binder
