import PathQuery.Proofs.Filter.Meaning
import PathQuery.Proofs.Filter.Paths

/-!
# Filters along chosen rows

A joined table holds one row at a time of all that match. A choice says which one, so a filter has
truths along each choice, and a statement returns a row if the filter is true of it along some
choice.

* `Choice` : which row is taken at the end of every path, for every key from there;
* `Hop.related` : the rows that a hop leads to from a row, one of which is taken (`Row.pick`);
* `Setting.trace` : the collection and the row that a path leads to along a choice;
* `Filter.chosen` : the truths of a filter for a row along a choice. A first hop to many rows that
  is left to a statement inside asks for one of the related rows, and for a choice of its own.
-/

namespace PathQuery

open Sql (Truth Row Database Dialect Logical)

/-- Which of the related rows is taken at the end of a path, for a key from there. -/
abbrev Choice : Type := Path → String → Nat

namespace Choice

/-- What is chosen from the end of a path on. -/
def below (φ : Choice) (path : Path) : Choice := fun rest => φ (path ++ rest)

/-- Whether two choices are the same for a key and for all that is behind it. -/
structure Same (φ φ' : Choice) (key : String) : Prop where
  here : φ [] key = φ' [] key
  below : φ.below [key] = φ'.below [key]

/-- The choice that takes another row for one key at the end of one path. -/
def update (φ : Choice) (path : Path) (key : String) (n : Nat) : Choice := fun path' key' =>
  if path' = path ∧ key' = key then n else φ path' key'

/-- The choice that is another for some keys and all that is behind them. -/
def mix (φ : Choice) (keys : List String) (φ' : Choice) : Choice := fun path key =>
  if path.headD key ∈ keys then φ' path key else φ path key

/-- The choice that takes a row for a key, and chooses in its own way behind it. -/
def graft (φ : Choice) (key : String) (n : Nat) (φ' : Choice) : Choice
  | [], key' => if key' = key then n else φ [] key'
  | first :: path, key' => if first = key then φ' path key' else φ (first :: path) key'

variable {φ φ' : Choice}

theorem below_below (φ : Choice) (path rest : Path) : (φ.below path).below rest = φ.below (path ++ rest) := by
  funext path'
  unfold below
  rw [List.append_assoc]

theorem below_apply_nil (φ : Choice) (path : Path) : φ.below path [] = φ path := by
  unfold below
  rw [List.append_nil]

theorem update_self (φ : Choice) (path : Path) (key : String) (n : Nat) : φ.update path key n path key = n :=
  if_pos ⟨rfl, rfl⟩

theorem update_of_ne (φ : Choice) {path path' : Path} {key key' : String} (n : Nat)
    (h : path' ++ [key'] ≠ path ++ [key]) : φ.update path key n path' key' = φ path' key' := by
  refine if_neg ?_
  rintro ⟨rfl, rfl⟩
  exact h rfl

theorem Same.refl (φ : Choice) (key : String) : φ.Same φ key := ⟨rfl, rfl⟩

theorem Same.symm {key : String} (h : φ.Same φ' key) : φ'.Same φ key := ⟨h.here.symm, h.below.symm⟩

theorem Same.trans {φ'' : Choice} {key : String} (h : φ.Same φ' key) (h' : φ'.Same φ'' key) : φ.Same φ'' key :=
  ⟨h.here.trans h'.here, h.below.trans h'.below⟩

theorem mix_of_mem {keys : List String} {key : String} (h : key ∈ keys) : (φ.mix keys φ').Same φ' key := by
  refine ⟨if_pos h, ?_⟩
  funext path key'
  exact if_pos h

theorem mix_of_not_mem {keys : List String} {key : String} (h : key ∉ keys) : (φ.mix keys φ').Same φ key := by
  refine ⟨if_neg h, ?_⟩
  funext path key'
  exact if_neg h

theorem graft_self (φ : Choice) (key : String) (n : Nat) (φ' : Choice) :
    φ.graft key n φ' [] key = n ∧ (φ.graft key n φ').below [key] = φ' := by
  refine ⟨if_pos rfl, ?_⟩
  funext path key'
  exact if_pos rfl

theorem graft_of_ne {key key' : String} (n : Nat) (h : key' ≠ key) : (φ.graft key n φ').Same φ key' := by
  refine ⟨if_neg h, ?_⟩
  funext path key''
  exact if_neg h

end Choice

variable {V : Type}

/-- One of some rows, or the row of nulls if there is none. -/
def Sql.Row.pick (rows : List (Row V)) (n : Nat) : Row V := rows[n % rows.length]?.getD .null

@[simp] theorem Sql.Row.pick_nil (n : Nat) : Row.pick ([] : List (Row V)) n = .null := rfl

theorem Sql.Row.pick_mem {rows : List (Row V)} (h : rows ≠ []) (n : Nat) : Row.pick rows n ∈ rows := by
  have hlt : n % rows.length < rows.length := Nat.mod_lt n (List.length_pos_of_ne_nil h)
  unfold pick
  rw [List.getElem?_eq_getElem hlt]
  exact List.getElem_mem hlt

theorem Sql.Row.exists_pick {rows : List (Row V)} {r : Row V} (h : r ∈ rows) : ∃ n, Row.pick rows n = r := by
  obtain ⟨n, hn, rfl⟩ := List.getElem_of_mem h
  refine ⟨n, ?_⟩
  unfold pick
  rw [Nat.mod_eq_of_lt hn, List.getElem?_eq_getElem hn]
  rfl

noncomputable def Sql.Truth.ofProp (p : Prop) : Truth := .ofBool (@decide p (Classical.propDecidable p))

theorem Sql.Truth.ofProp_eq_true {p : Prop} : Truth.ofProp p = .true ↔ p := by
  rw [ofProp, Truth.ofBool_eq_true]
  exact @decide_eq_true_iff p (Classical.propDecidable p)

variable [DecidableEq V] (setting : Setting) (d : Dialect V) (db : Database V)

/-- The rows of `target` that a hop leads to from a row of `c`. -/
def Hop.related (h : Hop) (segment : Segment) (c target : String) (row : Row V) : List (Row V) :=
  match h.kind with
  | .manyToOne =>
    match setting.schema.primaryKey target with
    | .error _ => []
    | .ok key => (db target).filter fun r => Truth.both (fun x y => x == y) (row h.relation.field) (r key) = .true
  | .manyToAny =>
    match setting.schema.primaryKey target, h.collectionField? with
    | .ok key, some collectionField =>
      if row collectionField = some (d.value (.text (segment.scope.getD ""))) then
        (db target).filter fun r => Truth.both (fun x y => x == y) (row h.relation.field) (r key) = .true
      else []
    | _, _ => []
  | .oneToMany =>
    match setting.schema.primaryKey c with
    | .error _ => []
    | .ok key => (db target).filter (h.isRelated (row key))

/-- The collection and the row that a key leads to from others, if that row is taken. -/
def Setting.take (place : String × Row V) (key : String) (n : Nat) : String × Row V :=
  match setting.schema.hop? place.1 (Segment.ofKey key).field with
  | none => place
  | some hop =>
    match hop.target setting.schema (.ofKey key) with
    | .error _ => place
    | .ok target => (target, .pick (hop.related setting d db (.ofKey key) place.1 target place.2) n)

/-- The collection and the row that a path leads to along a choice. -/
def Setting.trace (φ : Choice) (place : String × Row V) : Path → String × Row V
  | [] => place
  | key :: path => Setting.trace (φ.below [key]) (setting.take d db place key (φ [] key)) path

mutual

/-- The truths of a node for a row of `c` along a choice; `first` says that no hop leads there, and
that hops to many rows from there are left to statements inside. -/
noncomputable def Node.chosen (first : Bool) (c : String) (φ : Choice) (row : Row V) : Node → List Truth
  | .comparison _ _ => []
  | .group op children =>
    if Filter.matchesAll op children then [.true]
    else (op.total (Filter.childChosen first c φ row children)).toList
  | .field segment nested =>
    if Filter.isComparisons nested then comparisonTruths setting d db c row segment.field nested
    else
      match setting.schema.hop? c segment.field with
      | none => []
      | some hop =>
        if hop.kind = .oneToMany ∧ first = true then
          [.ofProp (∃ r ∈ hop.related setting d db segment c hop.relation.collection row, ∃ φ' : Choice,
            (Logical.total .and (Filter.chosen false hop.relation.collection φ' r nested)).getD .true = .true)]
        else
          match hop.target setting.schema segment with
          | .error _ => []
          | .ok target =>
            Filter.chosen false target (φ.below [segment.key])
              (.pick (hop.related setting d db segment c target row) (φ [] segment.key)) nested

noncomputable def Filter.chosen (first : Bool) (c : String) (φ : Choice) (row : Row V) : List Node → List Truth
  | [] => []
  | node :: rest => Node.chosen first c φ row node ++ Filter.chosen first c φ row rest

noncomputable def Filter.childChosen (first : Bool) (c : String) (φ : Choice) (row : Row V) :
    List (List Node) → List Truth
  | [] => []
  | child :: rest => Filter.chosen first c φ row child ++ Filter.childChosen first c φ row rest

end

def Segment.onlyKey? : List Segment → Option String
  | [segment] => some segment.key
  | _ => none

def Filter.keys (f : Filter) : List String := (Filter.hopPaths f).filterMap Segment.onlyKey?

namespace Filter

variable {op : Logical} {children : List Filter} {segment : Segment} {nested : Filter}

theorem keys_append (f g : Filter) : keys (f ++ g) = keys f ++ keys g := by
  unfold keys
  rw [hopPaths_append, List.filterMap_append]

theorem keys_cons_of_nil {node : Node} (h : node.hopPaths = []) (f : Filter) : keys (node :: f) = keys f := by
  unfold keys
  rw [hopPaths, h, List.nil_append]

theorem keys_group (hm : matchesAll op children = false) (f : Filter) :
    keys (.group op children :: f) = keys children.flatten ++ keys f := by
  rw [← keys_append]
  unfold keys
  rw [hopPaths, Node.hopPaths, hm, if_neg Bool.false_ne_true, childHopPaths_eq, hopPaths_append]

theorem keys_field (hc : isComparisons nested = false) (f : Filter) :
    keys (.field segment nested :: f) = segment.key :: keys f := by
  have hbelow : ((hopPaths nested).map fun hops => segment :: hops).filterMap Segment.onlyKey? = [] := by
    rw [List.filterMap_map]
    refine List.filterMap_eq_nil_iff.2 fun hops hmem => ?_
    obtain ⟨first, rest, rfl⟩ := List.exists_cons_of_ne_nil (ne_nil_of_mem_hopPaths nested hmem)
    rfl
  unfold keys
  rw [hopPaths, hopPaths_field hc, List.filterMap_append, List.filterMap_cons, hbelow]
  rfl

end Filter

/-! ## Along choices -/

variable {setting d db} {first : Bool} {c : String} {φ φ' : Choice} {row : Row V}

namespace Filter

theorem chosen_append (f g : Filter) : chosen setting d db first c φ row (f ++ g) =
    chosen setting d db first c φ row f ++ chosen setting d db first c φ row g := by
  induction f with
  | nil => rw [chosen]; rfl
  | cons node f ih => rw [List.cons_append, chosen, chosen, ih, List.append_assoc]

theorem childChosen_eq (fs : List Filter) :
    childChosen setting d db first c φ row fs = chosen setting d db first c φ row fs.flatten := by
  induction fs with
  | nil => rw [childChosen, List.flatten_nil, chosen]
  | cons f fs ih => rw [childChosen, ih, List.flatten_cons, chosen_append]

end Filter

mutual

theorem Node.chosen_congr : (node : Node) → (∀ key ∈ Filter.keys [node], φ.Same φ' key) →
    node.chosen setting d db first c φ row = node.chosen setting d db first c φ' row
  | .comparison _ _, _ => by rw [Node.chosen, Node.chosen]
  | .group op children, h => by
    rw [Node.chosen, Node.chosen]
    cases hm : Filter.matchesAll op children with
    | true => rfl
    | false =>
      rw [Filter.keys_group hm] at h
      rw [Filter.childChosen_congr children fun key hk => h key (List.mem_append_left _ hk)]
  | .field segment nested, h => by
    rw [Node.chosen, Node.chosen]
    cases hc : Filter.isComparisons nested with
    | true => rfl
    | false =>
      rw [Filter.keys_field hc] at h
      have hsame : φ.Same φ' segment.key := h segment.key List.mem_cons_self
      rw [hsame.here, hsame.below]

/-- A filter reads no choices but those for the keys at its top. -/
theorem Filter.chosen_congr : (f : List Node) → (∀ key ∈ Filter.keys f, φ.Same φ' key) →
    Filter.chosen setting d db first c φ row f = Filter.chosen setting d db first c φ' row f
  | [], _ => by rw [Filter.chosen, Filter.chosen]
  | node :: rest, h => by
    have happend : Filter.keys (node :: rest) = Filter.keys [node] ++ Filter.keys rest :=
      Filter.keys_append [node] rest
    rw [happend] at h
    rw [Filter.chosen, Filter.chosen, Node.chosen_congr node fun key hk => h key (List.mem_append_left _ hk),
      Filter.chosen_congr rest fun key hk => h key (List.mem_append_right _ hk)]

theorem Filter.childChosen_congr : (fs : List (List Node)) → (∀ key ∈ Filter.keys fs.flatten, φ.Same φ' key) →
    Filter.childChosen setting d db first c φ row fs = Filter.childChosen setting d db first c φ' row fs
  | [], _ => by rw [Filter.childChosen, Filter.childChosen]
  | f :: fs, h => by
    rw [List.flatten_cons, Filter.keys_append] at h
    rw [Filter.childChosen, Filter.childChosen, Filter.chosen_congr f fun key hk => h key (List.mem_append_left _ hk),
      Filter.childChosen_congr fs fun key hk => h key (List.mem_append_right _ hk)]

end

/-! ## Rows of nulls -/

theorem comparisonTruths_length (c field : String) (row row' : Row V) (f : Filter) :
    (comparisonTruths setting d db c row field f).length = (comparisonTruths setting d db c row' field f).length := by
  unfold comparisonTruths
  split
  · rfl
  · split
    · rfl
    · rw [List.length_map, List.length_map]

theorem Logical.length_total {op : Logical} {ts us : List Truth} (h : ts.length = us.length) :
    (op.total ts).toList.length = (op.total us).toList.length := by
  cases ts with
  | nil =>
    obtain rfl := List.length_eq_zero_iff.1 h.symm
    rfl
  | cons t ts =>
    cases us with
    | nil => exact absurd h (by simp)
    | cons u us => rfl

@[simp] theorem Hop.related_null (hop : Hop) (segment : Segment) (c target : String) :
    hop.related setting d db segment c target .null = [] := by
  unfold related
  split
  · split
    · rfl
    · exact List.filter_eq_nil_iff.2 fun r _ => by simp [Truth.both, Row.null]
  · split
    · rfl
    · rfl
  · split
    · rfl
    · exact List.filter_eq_nil_iff.2 fun r _ => by simp [isRelated, Row.null]

@[simp] theorem Hop.referenced_null (hop : Hop) (segment : Segment) (target : String) :
    hop.referenced setting d db segment target .null = .null := by
  unfold referenced
  split
  · rfl
  · split <;> rfl

mutual

theorem Node.chosen_null (φ : Choice) (c : String) : (node : Node) →
    node.chosen setting d db false c φ .null = node.truths setting d db false c .null
  | .comparison _ _ => by rw [Node.chosen, Node.truths]
  | .group op children => by rw [Node.chosen, Node.truths, Filter.childChosen_null φ c children]
  | .field segment nested => by
    rw [Node.chosen, Node.truths]
    split
    · rfl
    · cases hh : setting.schema.hop? c segment.field with
      | none => rfl
      | some hop =>
        dsimp only
        rw [if_neg (fun h => Bool.false_ne_true h.2), if_neg (fun h => Bool.false_ne_true h.2)]
        cases ht : hop.target setting.schema segment with
        | error _ => rfl
        | ok target =>
          dsimp only
          rw [Hop.related_null, Hop.referenced_null, Row.pick_nil, Filter.chosen_null _ target nested]

/-- From a row of nulls all hops lead to rows of nulls, whatever is chosen. -/
theorem Filter.chosen_null (φ : Choice) (c : String) : (f : List Node) →
    Filter.chosen setting d db false c φ .null f = Filter.truths setting d db false c .null f
  | [] => by rw [Filter.chosen, Filter.truths]
  | node :: rest => by
    rw [Filter.chosen, Filter.truths, Node.chosen_null φ c node, Filter.chosen_null φ c rest]

theorem Filter.childChosen_null (φ : Choice) (c : String) : (fs : List (List Node)) →
    Filter.childChosen setting d db false c φ .null fs = Filter.childTruths setting d db false c .null fs
  | [] => by rw [Filter.childChosen, Filter.childTruths]
  | f :: fs => by
    rw [Filter.childChosen, Filter.childTruths, Filter.chosen_null φ c f, Filter.childChosen_null φ c fs]

end

mutual

theorem Node.length_chosen (φ φ' : Choice) (c : String) (row row' : Row V) : (node : Node) →
    (node.chosen setting d db false c φ row).length = (node.chosen setting d db false c φ' row').length
  | .comparison _ _ => by rw [Node.chosen, Node.chosen]
  | .group op children => by
    rw [Node.chosen, Node.chosen]
    split
    · rfl
    · exact Logical.length_total (Filter.length_childChosen φ φ' c row row' children)
  | .field segment nested => by
    rw [Node.chosen, Node.chosen]
    split
    · exact comparisonTruths_length c _ row row' nested
    · cases hh : setting.schema.hop? c segment.field with
      | none => rfl
      | some hop =>
        dsimp only
        rw [if_neg (fun h => Bool.false_ne_true h.2), if_neg (fun h => Bool.false_ne_true h.2)]
        cases ht : hop.target setting.schema segment with
        | error _ => rfl
        | ok target => exact Filter.length_chosen _ _ _ _ _ nested

theorem Filter.length_chosen (φ φ' : Choice) (c : String) (row row' : Row V) : (f : List Node) →
    (Filter.chosen setting d db false c φ row f).length = (Filter.chosen setting d db false c φ' row' f).length
  | [] => by rw [Filter.chosen, Filter.chosen]
  | node :: rest => by
    rw [Filter.chosen, Filter.chosen, List.length_append, List.length_append,
      Node.length_chosen φ φ' c row row' node, Filter.length_chosen φ φ' c row row' rest]

theorem Filter.length_childChosen (φ φ' : Choice) (c : String) (row row' : Row V) : (fs : List (List Node)) →
    (Filter.childChosen setting d db false c φ row fs).length =
      (Filter.childChosen setting d db false c φ' row' fs).length
  | [] => by rw [Filter.childChosen, Filter.childChosen]
  | f :: fs => by
    rw [Filter.childChosen, Filter.childChosen, List.length_append, List.length_append,
      Filter.length_chosen φ φ' c row row' f, Filter.length_childChosen φ φ' c row row' fs]

end

end PathQuery
