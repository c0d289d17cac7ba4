import Mathlib.Algebra.Group.Int.Defs
import PathQuery.Proofs.Compile.Phases
import PathQuery.Proofs.Config
import PathQuery.Proofs.Numeral.Spelling
import PathQuery.Proofs.Sql.Meaning

/-!
# Limits, offsets and pages

* `Config.Limits`, `Offsets` : the limit and the offset that a statement carries for those that are
  asked for;
* `Config.Refuses` : what may be wrong with a limit, an offset and a page;
* `Draft.skipped` : the rows that a statement passes over;
* `Setting.IsPage` : whether a query makes a draft for a page, with a limit of at least one row.

What is refused is refused for one of five reasons, and 64 bits hold whatever is computed on the way
(`paging_of_environment`). Pages follow each other without gaps and have no rows in common, unless
all rows are asked for and a cap says how many these are: then every page is the same
(`pages_of_query`).
-/

namespace PathQuery

open Sql (Draft window)

/-! ## Limits -/

/-- The limit that a statement carries for the one that is asked for: -1 asks for as many rows as
there may be. -/
inductive Config.Limits (config : Config) : Option Int64 → Option Int64 → Prop where
  | unasked : config.Limits none none
  | all : config.Limits (some (-1)) config.maxLimit
  | own {n} (hn : 0 ≤ n) (hcap : ∀ m ∈ config.maxLimit, n ≤ m) : config.Limits (some n) (some n)

/-- What is wrong with a limit, an offset and a page. -/
inductive Config.Refuses (config : Config) (limit offset page : Option Int64) : Prop where
  | limit {n} (hl : limit = some n) (hn : n < -1)
  | cap {n m} (hl : limit = some n) (hm : config.maxLimit = some m) (hn : m < n)
  | offset {n} (ho : offset = some n) (hn : n < 0)
  | page {p} (hp : page = some p) (hn : p < 1)
  | range {n p} (hl : limit = some n) (hp : page = some p) (hn : 1 ≤ n) (hr : 2 ^ 63 - 1 < n.toInt * (p.toInt - 1))

/-- The offset that a statement carries: that of the page where there is a positive limit, and the
one that is asked for otherwise. -/
inductive Offsets (offset : Option Int64) : (page limit : Option Int64) → Option Int64 → Prop where
  | own {page limit} (ho : ∀ n ∈ offset, 0 ≤ n) (hp : ∀ p ∈ page, 1 ≤ p) (hl : page = none ∨ ∀ n ∈ limit, n ≤ 0) :
      Offsets offset page limit offset
  | page {p n rows : Int64} (ho : ∀ n ∈ offset, 0 ≤ n) (hp : 1 ≤ p) (hn : 1 ≤ n)
      (hr : rows.toInt = n.toInt * (p.toInt - 1)) : Offsets offset (some p) (some n) (some rows)

theorem one_le_iff_pos {n : Int64} : 1 ≤ n ↔ 0 < n := by
  rw [Int64.le_iff_toInt_le, Int64.lt_iff_toInt_lt, Int64.toInt_one, Int64.toInt_zero]
  omega

theorem nonneg_of_not_lt {n : Int64} (h : ¬ n < -1) (hne : n ≠ -1) : 0 ≤ n := by
  rw [Int64.lt_iff_toInt_lt] at h
  rw [Ne, ← Int64.toInt_inj] at hne
  rw [Int64.le_iff_toInt_le]
  have hminus : (-1 : Int64).toInt = -1 := rfl
  rw [hminus] at h hne
  rw [Int64.toInt_zero]
  omega

variable {config : Config} {limit offset page : Option Int64}

theorem limits_of_compileLimit {o : Option Int64} (h : compileLimit config limit = .ok o) : config.Limits limit o := by
  unfold compileLimit at h
  split at h
  · obtain rfl := Except.ok.inj h
    exact .unasked
  next n =>
    split at h
    next hn =>
      obtain rfl := Except.ok.inj h
      exact hn ▸ .all
    next hne =>
      split at h
      · exact absurd h (by simp)
      next hlt =>
        have hn := nonneg_of_not_lt hlt hne
        split at h
        next m hm =>
          split at h
          · exact absurd h (by simp)
          next hle =>
            obtain rfl := Except.ok.inj h
            refine .own hn fun k hk => ?_
            obtain rfl := Option.some.inj (hm.symm.trans hk)
            exact Int64.not_lt.1 hle
        next hm =>
          obtain rfl := Except.ok.inj h
          exact .own hn fun k hk => absurd (hm.symm.trans hk) (by simp)

theorem refuses_of_compileLimit {e : QueryError} (h : compileLimit config limit = .error e) :
    config.Refuses limit offset page := by
  unfold compileLimit at h
  split at h
  · exact absurd h (by simp)
  next n =>
    split at h
    · exact absurd h (by simp)
    · split at h
      next hlt => exact .limit rfl hlt
      · split at h
        next m hm =>
          split at h
          next hlt => exact .cap rfl hm hlt
          · exact absurd h (by simp)
        · exact absurd h (by simp)

/-! ## Offsets -/

/-- The rows before a page are counted as they are. -/
theorem pageOffset?_eq_some_iff {n p rows : Int64} :
    pageOffset? n p = some rows ↔ rows.toInt = n.toInt * (p.toInt - 1) := by
  unfold pageOffset?
  dsimp only
  constructor
  · intro h
    split at h
    next hfits =>
      rw [Numeral.fitsInt64_iff] at hfits
      rw [← Option.some.inj h, Int64.toInt_ofInt_of_le hfits.1 (by omega)]
    · exact absurd h (by simp)
  · intro h
    rw [← h, if_pos (Numeral.fitsInt64_toInt rows), Int64.ofInt_toInt]

/-- Before a page are too many rows only if 64 bits do not hold their number. -/
theorem lt_of_pageOffset?_eq_none {n p : Int64} (hn : 1 ≤ n) (hp : 1 ≤ p) (h : pageOffset? n p = none) :
    2 ^ 63 - 1 < n.toInt * (p.toInt - 1) := by
  rw [Int64.le_iff_toInt_le, Int64.toInt_one] at hn hp
  have hnonneg : 0 ≤ n.toInt * (p.toInt - 1) := Int.mul_nonneg (by omega) (by omega)
  have hfits : ¬ Numeral.fitsInt64 (n.toInt * (p.toInt - 1)) = true := by
    intro hfits
    rw [pageOffset?, if_pos hfits] at h
    exact absurd h (by simp)
  rw [Numeral.fitsInt64_iff] at hfits
  omega

theorem toInt_sub_one {p : Int64} (hp : 1 ≤ p) : (p - 1).toInt = p.toInt - 1 :=
  Int64.toInt_sub_of_le p 1 (by decide) hp

/-- What 64 bits hold of the rows before a page is what is computed in 64 bits. -/
theorem eq_mul_of_toInt_eq {n p rows : Int64} (hp : 1 ≤ p) (h : rows.toInt = n.toInt * (p.toInt - 1)) :
    rows = n * (p - 1) := by
  rw [← toInt_sub_one hp] at h
  rw [← Int64.ofInt_toInt rows, h, Int64.ofInt_mul, Int64.ofInt_toInt, Int64.ofInt_toInt]

theorem offsets_of_compilePage {p : Int64} {o : Option Int64} (ho : ∀ n ∈ offset, 0 ≤ n)
    (h : compilePage offset p limit = .ok o) : Offsets offset (some p) limit o := by
  unfold compilePage at h
  split at h
  · exact absurd h (by simp)
  next hlt =>
    have hp := Int64.not_lt.1 hlt
    have hpage : ∀ k ∈ some p, 1 ≤ k := fun k hk => Option.some.inj hk ▸ hp
    split at h
    · obtain rfl := Except.ok.inj h
      exact .own ho hpage (.inr fun n hn => absurd hn (Option.not_mem_none n))
    next n =>
      split at h
      next hpos =>
        split at h
        next rows hrows =>
          obtain rfl := Except.ok.inj h
          exact .page ho hp (one_le_iff_pos.2 hpos) (pageOffset?_eq_some_iff.1 hrows)
        · exact absurd h (by simp)
      next hpos =>
        obtain rfl := Except.ok.inj h
        exact .own ho hpage (.inr fun k hk => Option.some.inj hk ▸ Int64.not_lt.1 hpos)

theorem offsets_of_compileOffset {o : Option Int64} (h : compileOffset offset page limit = .ok o) :
    Offsets offset page limit o := by
  unfold compileOffset at h
  split at h
  next n =>
    split at h
    · exact absurd h (by simp)
    next hlt =>
      have ho : ∀ k ∈ some n, 0 ≤ k := fun k hk => Option.some.inj hk ▸ Int64.not_lt.1 hlt
      split at h
      · obtain rfl := Except.ok.inj h
        exact .own ho (fun p hp => absurd hp (Option.not_mem_none p)) (.inl rfl)
      · exact offsets_of_compilePage ho h
  next =>
    have ho : ∀ k ∈ (none : Option Int64), 0 ≤ k := fun k hk => absurd hk (Option.not_mem_none k)
    split at h
    · obtain rfl := Except.ok.inj h
      exact .own ho (fun p hp => absurd hp (Option.not_mem_none p)) (.inl rfl)
    · exact offsets_of_compilePage ho h

theorem refuses_of_compilePage {p : Int64} {e : QueryError} (h : compilePage offset p limit = .error e) :
    config.Refuses limit offset (some p) := by
  unfold compilePage at h
  split at h
  next hlt => exact .page rfl hlt
  next hlt =>
    split at h
    · exact absurd h (by simp)
    next n =>
      split at h
      next hpos =>
        have hn := one_le_iff_pos.2 hpos
        split at h
        · exact absurd h (by simp)
        next hrows => exact .range rfl rfl hn (lt_of_pageOffset?_eq_none hn (Int64.not_lt.1 hlt) hrows)
      · exact absurd h (by simp)

theorem refuses_of_compileOffset {e : QueryError} (h : compileOffset offset page limit = .error e) :
    config.Refuses limit offset page := by
  unfold compileOffset at h
  split at h
  · split at h
    next hlt => exact .offset rfl hlt
    · split at h
      · exact absurd h (by simp)
      · exact refuses_of_compilePage h
  · split at h
    · exact absurd h (by simp)
    · exact refuses_of_compilePage h

theorem Config.Refuses.not_offsets (h : config.Refuses limit offset page) (hcap : ∀ m ∈ config.maxLimit, 1 ≤ m)
    {l o : Option Int64} (hl : config.Limits limit l) : ¬ Offsets offset page limit o := by
  intro ho
  cases h with
  | limit hlimit hn =>
    subst hlimit
    cases hl with
    | all => exact absurd hn (by decide)
    | own hnonneg => exact absurd (Int64.lt_of_le_of_lt hnonneg hn) (by decide)
  | cap hlimit hm hn =>
    subst hlimit
    cases hl with
    | all => exact absurd (Int64.lt_of_le_of_lt (hcap _ hm) hn) (by decide)
    | own _ hle => exact Int64.not_lt.2 (hle _ hm) hn
  | offset hoffset hn =>
    cases ho with
    | own h => exact Int64.not_lt.2 (h _ hoffset) hn
    | page h => exact Int64.not_lt.2 (h _ hoffset) hn
  | page hpage hn =>
    cases ho with
    | own _ h => exact Int64.not_lt.2 (h _ hpage) hn
    | page _ h =>
      obtain rfl := Option.some.inj hpage
      exact Int64.not_lt.2 h hn
  | range hlimit hpage hn hr =>
    subst hlimit hpage
    cases ho with
    | own _ _ h =>
      rcases h with h | h
      · exact absurd h (by simp)
      · exact absurd (Int64.le_trans hn (h _ rfl)) (by decide)
    | @page _ _ rows _ _ _ hrows =>
      have hlt := rows.toInt_lt
      omega

/-! ## Windows of queries -/

theorem Sql.Draft.window_addJoins (d : Draft) (js : List Sql.Join) :
    (js.foldl addJoin d).limit = d.limit ∧ (js.foldl addJoin d).offset = d.offset := by
  induction js generalizing d with
  | nil => exact ⟨rfl, rfl⟩
  | cons j js ih =>
    have hadd : (d.addJoin j).limit = d.limit ∧ (d.addJoin j).offset = d.offset := by
      unfold addJoin
      split <;> exact ⟨rfl, rfl⟩
    exact ⟨(ih _).1.trans hadd.1, (ih _).2.trans hadd.2⟩

theorem Compiled.window_apply (c : Compiled) (d : Draft) :
    (c.apply d).limit = d.limit ∧ (c.apply d).offset = d.offset := by
  have hjoins := d.window_addJoins c.joins
  unfold apply
  split <;> exact hjoins

theorem CompiledQuery.window_apply (c : CompiledQuery) (d : Draft) :
    (c.apply d).limit = c.limit.or d.limit ∧ (c.apply d).offset = c.offset.or d.offset := by
  have hfiltered : (c.filter.elim (c.frame d) (·.apply (c.frame d))).limit = c.limit.or d.limit ∧
      (c.filter.elim (c.frame d) (·.apply (c.frame d))).offset = c.offset.or d.offset := by
    cases c.filter with
    | none => exact ⟨rfl, rfl⟩
    | some f => exact f.window_apply _
  rw [c.apply_frame]
  cases c.search with
  | none => exact hfiltered
  | some p => exact hfiltered

variable {setting : Setting} {c : String} {subquery : Bool} {n : Nat}

/-- The window of an empty draft that a query is applied to is the one it asks for. -/
theorem window_of_applyQuery {q : Query} {n' : Nat} {d : Draft}
    (h : setting.applyQuery (Draft.new c) c q subquery n = .ok (d, n')) :
    setting.config.Limits q.limit d.limit ∧ Offsets q.offset q.page q.limit d.offset := by
  obtain ⟨⟨compiled, m⟩, hquery, h⟩ := exists_of_bind_eq_ok h
  obtain ⟨rfl, -⟩ := Prod.mk.inj (Except.ok.inj h)
  obtain ⟨order, -, hquery⟩ := exists_of_bind_eq_ok hquery
  obtain ⟨limit, hlimit, hquery⟩ := exists_of_bind_eq_ok hquery
  obtain ⟨offset, hoffset, hquery⟩ := exists_of_bind_eq_ok hquery
  obtain ⟨filtered, -, hquery⟩ := exists_of_bind_eq_ok hquery
  obtain ⟨search, -, hquery⟩ := exists_of_bind_eq_ok hquery
  obtain ⟨rfl, -⟩ := Prod.mk.inj (Except.ok.inj hquery)
  obtain ⟨hl, ho⟩ := CompiledQuery.window_apply ⟨order, limit, offset, filtered.1, search⟩ (Draft.new c)
  rw [hl, ho, Draft.new, Option.or_none, Option.or_none]
  exact ⟨limits_of_compileLimit hlimit, offsets_of_compileOffset hoffset⟩

/-- The query that asks for a window of all rows. -/
def Query.windowed (limit offset page : Option Int64) : Query :=
  { empty with limit := limit, offset := offset, page := page }

/-- Of a query for a window only its paging can be refused. -/
theorem refused_iff {limit offset page : Option Int64} (hcap : ∀ m ∈ setting.config.maxLimit, 1 ≤ m) (d : Draft) :
    (∃ e, setting.applyQuery d c (.windowed limit offset page) subquery n = .error e) ↔
      setting.config.Refuses limit offset page := by
  rw [Setting.exists_error_iff]
  constructor
  · intro h
    cases h with
    | sort h => exact absurd h pure_ne_error
    | limit h => exact refuses_of_compileLimit h
    | offset h => exact refuses_of_compileOffset h
    | filter hf => exact absurd hf (by simp [Query.windowed, Query.empty])
    | body hf => exact absurd hf (by simp [Query.windowed, Query.empty])
    | search ht => exact absurd ht (by simp [Query.windowed, Query.empty])
  · intro h
    cases hlimit : compileLimit setting.config limit with
    | error e => exact .limit hlimit
    | ok l =>
      cases hoffset : compileOffset offset page limit with
      | error e => exact .offset hoffset
      | ok o =>
        exact absurd (offsets_of_compileOffset hoffset) (h.not_offsets hcap (limits_of_compileLimit hlimit))

theorem Config.Limits.eq_own {l : Option Int64} (h : config.Limits limit l) (hlimit : limit ≠ some (-1)) :
    l = limit := by
  cases h with
  | unasked => rfl
  | all => exact absurd rfl hlimit
  | own => rfl

theorem Config.Limits.eq_cap {l : Option Int64} (h : config.Limits (some (-1)) l) : l = config.maxLimit := by
  generalize hasked : some (-1 : Int64) = asked at h
  cases h with
  | unasked => exact absurd hasked (by simp)
  | all => rfl
  | own hn =>
    obtain rfl := Option.some.inj hasked
    exact absurd hn (by decide)

theorem Config.Limits.mem_range {l : Option Int64} (h : config.Limits limit l) (hcap : ∀ m ∈ config.maxLimit, 1 ≤ m) :
    ∀ k ∈ l, 0 ≤ k ∧ ∀ m ∈ config.maxLimit, k ≤ m := by
  intro k hk
  cases h with
  | unasked => exact absurd hk (Option.not_mem_none k)
  | all => exact ⟨Int64.le_trans (by decide) (hcap k hk), fun m hm => Int64.le_of_eq (Option.mem_unique hk hm)⟩
  | own hn hle =>
    obtain rfl := Option.some.inj hk
    exact ⟨hn, hle⟩

theorem Offsets.nonneg {o : Option Int64} (h : Offsets offset page limit o) : ∀ k ∈ o, 0 ≤ k.toInt := by
  intro k hk
  cases h with
  | own ho => exact Int64.le_iff_toInt_le.1 (ho k hk)
  | page _ hp hn hr =>
    obtain rfl := Option.some.inj hk
    rw [Int64.le_iff_toInt_le, Int64.toInt_one] at hp hn
    rw [hr]
    exact Int.mul_nonneg (by omega) (by omega)

theorem Offsets.one_le {p : Int64} {o : Option Int64} (h : Offsets offset (some p) limit o) : 1 ≤ p := by
  cases h with
  | own _ hp => exact hp p rfl
  | page _ hp => exact hp

theorem Offsets.eq_own {o : Option Int64} (h : Offsets offset page limit o) (hl : ∀ n ∈ limit, n < 1) : o = offset := by
  cases h with
  | own => rfl
  | page _ _ hn => exact absurd hn (Int64.not_le.2 (hl _ rfl))

/-- With a positive limit, the offset is that of the page, computed in 64 bits. -/
theorem Offsets.eq_mul {p l : Int64} {o : Option Int64} (h : Offsets offset (some p) (some l) o) (hl : 1 ≤ l) :
    o = some (l * (p - 1)) ∧ (l * (p - 1)).toInt = l.toInt * (p.toInt - 1) := by
  cases h with
  | own _ _ h =>
    rcases h with h | h
    · exact absurd h (by simp)
    · exact absurd (Int64.le_trans hl (h l rfl)) (by decide)
  | page _ hp _ hr =>
    obtain rfl := eq_mul_of_toInt_eq hp hr
    exact ⟨rfl, hr⟩

/-- A limit, an offset and a page are refused for one of five reasons, whatever the draft, and the
cap of an environment is positive. The pages before a page and the rows on them are counted in 64
bits, the latter as a product that is there only if 64 bits hold it. What is accepted gets a limit
that the cap allows and an offset that is not negative, with a page and a positive limit that of the
page. -/
theorem paging_of_environment {environment : Environment}
    (hconfig : Config.ofEnvironment environment = .ok setting.config) (c : String) (limit offset page : Option Int64)
    (subquery : Bool) (n : Nat) :
    (∀ m ∈ setting.config.maxLimit, 1 ≤ m) ∧
    (∀ d, (∃ e, setting.applyQuery d c (.windowed limit offset page) subquery n = .error e) ↔
      setting.config.Refuses limit offset page) ∧
    (∀ l p : Int64, 1 ≤ p → (p - 1).toInt = p.toInt - 1 ∧
      pageOffset? l p = if Numeral.fitsInt64 (l.toInt * (p - 1).toInt) then some (l * (p - 1)) else none) ∧
    ∀ d n', setting.applyQuery (Draft.new c) c (.windowed limit offset page) subquery n = .ok (d, n') →
      (∀ l ∈ d.toSelect.limit, 0 ≤ l ∧ ∀ m ∈ setting.config.maxLimit, l ≤ m) ∧
      (∀ o ∈ d.toSelect.offset, 0 ≤ o.toInt ∧ o.toInt ≤ 2 ^ 63 - 1) ∧
      ∀ l p, limit = some l → page = some p → 1 ≤ l →
        d.toSelect.offset = some (l * (p - 1)) ∧ (l * (p - 1)).toInt = l.toInt * (p.toInt - 1) := by
  have hcap := Config.one_le_maxLimit hconfig
  refine ⟨hcap, refused_iff hcap, fun l p hp => ⟨toInt_sub_one hp, ?_⟩, fun d n' h => ?_⟩
  · rw [toInt_sub_one hp, pageOffset?, Int64.ofInt_mul, ← toInt_sub_one hp, Int64.ofInt_toInt, Int64.ofInt_toInt]
  · obtain ⟨hl, ho⟩ := window_of_applyQuery h
    refine ⟨hl.mem_range hcap, fun o hmem => ⟨ho.nonneg o hmem, Int.le_sub_one_of_lt o.toInt_lt⟩, ?_⟩
    rintro l p rfl rfl hpos
    exact ho.eq_mul hpos

/-- A setting under which no query gets more than a hundred rows. -/
def Setting.capped : Setting := ⟨.newsroom, ⟨some 100, 10, false⟩, .postgis, .letters 7485998⟩

/-- The last page that 64 bits can name is refused, and the second one starts at its own offset. -/
theorem paging_capped :
    Config.ofEnvironment (.ofList [(Config.limitKey, " 100 ")]) = .ok Setting.capped.config ∧
    (∃ e, Setting.capped.applyQuery (Draft.new "users") "users"
      (.windowed (some 50) (some 3) (some Int64.maxValue)) false 0 = .error e) ∧
    ∀ d n', Setting.capped.applyQuery (Draft.new "users") "users" (.windowed (some 50) (some 3) (some 2)) false 0 =
      .ok (d, n') → d.toSelect.offset = some 50 := by
  have hconfig : Config.ofEnvironment (.ofList [(Config.limitKey, " 100 ")]) = .ok Setting.capped.config := rfl
  obtain ⟨-, hrefused, -⟩ :=
    paging_of_environment hconfig "users" (some 50) (some 3) (some Int64.maxValue) false 0
  obtain ⟨-, -, -, haccepted⟩ := paging_of_environment hconfig "users" (some 50) (some 3) (some 2) false 0
  refine ⟨hconfig, (hrefused _).2 (.range rfl rfl (by decide) (by decide)), fun d n' h => ?_⟩
  exact ((haccepted d n' h).2.2 50 2 rfl rfl (by decide)).1

/-! ## Pages -/

/-- The rows that the statement of a draft passes over. -/
def Sql.Draft.skipped (d : Draft) : Int := (d.offset.map Int64.toInt).getD 0

variable (setting c subquery n) in
/-- Whether a query makes a draft for a page, whose statement has a limit of at least one row. -/
structure Setting.IsPage (q : Query) (p l : Int64) (d : Draft) : Prop where
  applied : ∃ n', setting.applyQuery (Draft.new c) c { q with page := some p } subquery n = .ok (d, n')
  limit : d.toSelect.limit = some l
  positive : 1 ≤ l

namespace Setting.IsPage

variable {q : Query} {p l : Int64} {d : Draft}

theorem limits (h : setting.IsPage c subquery n q p l d) : setting.config.Limits q.limit (some l) := by
  obtain ⟨n', happly⟩ := h.applied
  have hl := (window_of_applyQuery happly).1
  rwa [show d.limit = some l from h.limit] at hl

theorem offsets (h : setting.IsPage c subquery n q p l d) : Offsets q.offset (some p) q.limit d.offset := by
  obtain ⟨n', happly⟩ := h.applied
  exact (window_of_applyQuery happly).2

theorem limit_eq (h : setting.IsPage c subquery n q p l d) (hq : q.limit ≠ some (-1)) : q.limit = some l :=
  (h.limits.eq_own hq).symm

/-- A page of a query with a limit of its own starts behind the rows of the pages before it. -/
theorem skipped_eq (h : setting.IsPage c subquery n q p l d) (hq : q.limit ≠ some (-1)) :
    d.skipped = l.toInt * (p.toInt - 1) := by
  have ho := h.offsets
  rw [h.limit_eq hq] at ho
  obtain ⟨hoffset, hexact⟩ := ho.eq_mul h.positive
  rw [Draft.skipped, hoffset]
  exact hexact

theorem exists_skipped_toNat (h : setting.IsPage c subquery n q p l d) (hq : q.limit ≠ some (-1)) :
    ∃ before : Nat, p.toInt = before + 1 ∧ d.skipped.toNat = before * l.toInt.toNat := by
  have hp := h.offsets.one_le
  have hl := h.positive
  rw [Int64.le_iff_toInt_le, Int64.toInt_one] at hp hl
  obtain ⟨before, hbefore⟩ := Int.eq_ofNat_of_zero_le (Int.sub_nonneg_of_le hp)
  refine ⟨before, by omega, ?_⟩
  rw [h.skipped_eq hq, hbefore, Int.toNat_mul (by omega) (by omega), Int.toNat_natCast, Nat.mul_comm]

/-- The rows of a page are as many as its limit says, behind those that it passes over. -/
theorem window_eq {α : Type} (h : setting.IsPage c subquery n q p l d) (rows : List α) :
    window d.limit d.offset rows = (rows.drop d.skipped.toNat).take l.toInt.toNat := by
  have hskipped : (d.offset.map fun k => k.toInt.toNat).getD 0 = d.skipped.toNat := by
    unfold Draft.skipped
    cases d.offset <;> rfl
  rw [show d.limit = some l from h.limit, window, hskipped]

end Setting.IsPage

/-- Two windows of some rows have no row in common if one of them ends before the other starts. -/
theorem disjoint_windows {α : Type} {rows : List α} (hrows : rows.Nodup) {a b k m : Nat} (h : a + k ≤ b) :
    ((rows.drop a).take k).Disjoint ((rows.drop b).take m) := by
  have hdisjoint : ((rows.drop a).take k).Disjoint ((rows.drop a).drop (b - a)) :=
    List.disjoint_take_drop (hrows.sublist (List.drop_sublist a rows)) (by omega)
  rw [List.drop_drop, Nat.add_sub_cancel' (by omega)] at hdisjoint
  exact fun x hx hy => hdisjoint hx (List.mem_of_mem_take hy)

theorem Setting.IsPage.skipped_add_le {q : Query} {p p' l l' : Int64} {d d' : Draft}
    (h : setting.IsPage c subquery n q p l d) (h' : setting.IsPage c subquery n q p' l' d') (hq : q.limit ≠ some (-1))
    (hlt : p.toInt < p'.toInt) : d.skipped.toNat + l.toInt.toNat ≤ d'.skipped.toNat := by
  obtain rfl : l = l' := Option.some.inj ((h.limit_eq hq).symm.trans (h'.limit_eq hq))
  obtain ⟨before, hp, hskipped⟩ := h.exists_skipped_toNat hq
  obtain ⟨before', hp', hskipped'⟩ := h'.exists_skipped_toNat hq
  rw [hskipped, hskipped', ← Nat.succ_mul]
  exact Nat.mul_le_mul_right l.toInt.toNat (by omega)

theorem Setting.IsPage.skipped_toNat_succ {q : Query} {p p' l l' : Int64} {d d' : Draft}
    (h : setting.IsPage c subquery n q p l d) (h' : setting.IsPage c subquery n q p' l' d') (hq : q.limit ≠ some (-1))
    (hsucc : p'.toInt = p.toInt + 1) : d'.skipped.toNat = d.skipped.toNat + l.toInt.toNat := by
  obtain rfl : l = l' := Option.some.inj ((h.limit_eq hq).symm.trans (h'.limit_eq hq))
  obtain ⟨before, hp, hskipped⟩ := h.exists_skipped_toNat hq
  obtain ⟨before', hp', hskipped'⟩ := h'.exists_skipped_toNat hq
  obtain rfl : before' = before + 1 := by omega
  rw [hskipped, hskipped', Nat.succ_mul]

/-- Pages of a query whose limit is its own are pieces of the rows one after the other: a page
passes over the rows of the pages before it, whatever the offset, two pages have no row in common,
and together with the next page it is one piece. A query for all rows under a cap has the same
window on every page, that of its own offset. -/
theorem pages_of_query (setting : Setting) (c : String) (q : Query) (subquery : Bool) (n : Nat) :
    (q.limit ≠ some (-1) → ∀ p l d, setting.IsPage c subquery n q p l d →
      d.skipped = l.toInt * (p.toInt - 1) ∧
      ∀ p' l' d', setting.IsPage c subquery n q p' l' d' → ∀ {α : Type} (rows : List α),
        (p ≠ p' → rows.Nodup → (window d.limit d.offset rows).Disjoint (window d'.limit d'.offset rows)) ∧
        (p'.toInt = p.toInt + 1 → window d.limit d.offset rows ++ window d'.limit d'.offset rows =
          (rows.drop d.skipped.toNat).take (2 * l.toInt.toNat))) ∧
    (q.limit = some (-1) → ∀ p l d, setting.IsPage c subquery n q p l d →
      setting.config.maxLimit = some l ∧ d.toSelect.offset = q.offset) := by
  refine ⟨fun hq p l d h => ⟨h.skipped_eq hq, fun p' l' d' h' α rows => ⟨fun hne hrows => ?_, fun hsucc => ?_⟩⟩,
    fun hq p l d h => ⟨?_, ?_⟩⟩
  · rw [h.window_eq, h'.window_eq]
    rcases Int.lt_or_gt_of_ne fun heq => hne (Int64.toInt_inj.1 heq) with hlt | hlt
    · exact disjoint_windows hrows (h.skipped_add_le h' hq hlt)
    · exact fun x hx hx' => disjoint_windows hrows (h'.skipped_add_le h hq hlt) hx' hx
  · obtain rfl : l = l' := Option.some.inj ((h.limit_eq hq).symm.trans (h'.limit_eq hq))
    rw [h.window_eq, h'.window_eq, h.skipped_toNat_succ h' hq hsucc, Nat.two_mul, List.take_add, List.drop_drop]
  · have hl := h.limits
    rw [hq] at hl
    exact hl.eq_cap.symm
  · refine h.offsets.eq_own fun k hk => ?_
    obtain rfl := Option.some.inj (hq.symm.trans hk)
    decide

/-- The second and the third page of ten rows, whatever the offset, are the rows from the eleventh
to the thirtieth. -/
theorem pages_of_ten :
    let q : Query := .windowed (some 10) (some 3) none
    let second : Draft := { Draft.new "users" with limit := some 10, offset := some 10 }
    let third : Draft := { Draft.new "users" with limit := some 10, offset := some 20 }
    q.limit ≠ some (-1) ∧ Setting.capped.IsPage "users" false 0 q 2 10 second ∧
    Setting.capped.IsPage "users" false 0 q 3 10 third ∧ second.skipped = 10 ∧
    ∀ rows : List Nat, window second.limit second.offset rows ++ window third.limit third.offset rows =
      (rows.drop 10).take 20 := by
  intro q second third
  have hlimit : q.limit ≠ some (-1) := by decide
  have hsecond : Setting.capped.IsPage "users" false 0 q 2 10 second := ⟨⟨0, rfl⟩, rfl, by decide⟩
  have hthird : Setting.capped.IsPage "users" false 0 q 3 10 third := ⟨⟨0, rfl⟩, rfl, by decide⟩
  obtain ⟨hskipped, hpages⟩ :=
    (pages_of_query Setting.capped "users" q false 0).1 hlimit 2 10 second hsecond
  exact ⟨hlimit, hsecond, hthird, hskipped, fun rows => (hpages 3 10 third hthird rows).2 rfl⟩

/-- All rows are asked for and the cap is a hundred: the first page and the second are the same
hundred rows. -/
theorem pages_overlap_of_cap :
    let q : Query := .windowed (some (-1)) none none
    let page : Draft := { Draft.new "users" with limit := some 100 }
    Setting.capped.IsPage "users" false 0 q 1 100 page ∧ Setting.capped.IsPage "users" false 0 q 2 100 page ∧
    page.skipped ≠ 100 * (2 - 1) ∧
    ¬ (window page.limit page.offset [0]).Disjoint (window page.limit page.offset [0]) := by
  refine ⟨⟨⟨0, rfl⟩, rfl, by decide⟩, ⟨⟨0, rfl⟩, rfl, by decide⟩, by decide, fun hdisjoint => ?_⟩
  exact hdisjoint (a := 0) (by decide) (by decide)

end PathQuery
