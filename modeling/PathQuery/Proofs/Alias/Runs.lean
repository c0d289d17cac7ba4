import Mathlib.Data.List.Basic
import Mathlib.Data.List.GetD
import PathQuery.Alias.Map

/-!
# Runs of calls on an alias map

* `AliasMap.Call`, `AliasMap.Event` : a call and what comes of it;
* `AliasMap.run` : calls one after the other, each of which draws where the last one left the
  source;
* `AliasMap.Step` : a name is reserved, a recorded alias is found, or a name that is not in use is
  recorded;
* `AliasMap.Fits` : the invariant, which ties a map to the events so far.

Every call is such a step (`step_perform`), whatever tokens the source draws, and steps keep the
invariant (`Fits.step`). So in a run from the empty map every path has one alias and every alias one
path, the map looks up the aliases that were handed out and no others, and none of them had been
reserved (`serves_run`).
-/

namespace PathQuery

namespace AliasMap

/-- A call: a name is reserved, or the alias of a path is asked for. -/
inductive Call where
  | reserve (name : String)
  | ask (path : Path)
  deriving DecidableEq

/-- What comes of a call. -/
inductive Event where
  | reserved (name : String)
  | handed (path : Path) (aliasName : String)
  deriving DecidableEq

def Event.call : Event → Call
  | .reserved name => .reserve name
  | .handed path _ => .ask path

/-- What comes of a call, and the map and the place in the source after it. -/
def perform (source : AliasSource) (m : AliasMap) (n : Nat) : Call → Event × AliasMap × Nat
  | .reserve name => (.reserved name, m.reserve name, n)
  | .ask path =>
    let (aliasName, m, n) := m.allocate source path n
    (.handed path aliasName, m, n)

def run (source : AliasSource) (m : AliasMap) (n : Nat) : List Call → List Event × AliasMap × Nat
  | [] => ([], m, n)
  | call :: calls =>
    let (event, m, n) := m.perform source n call
    let (events, m, n) := run source m n calls
    (event :: events, m, n)

/-- Whether no alias is a name that was reserved before its path was first asked for. -/
def Heeds (events : List Event) : Prop := ∀ before after, events = before ++ after →
  ∀ path a, .handed path a ∈ after → (∀ b, .handed path b ∉ before) → .reserved a ∉ before

/-- What calls on a new map come to: an event for each of them, one alias for each path and one path
for each alias. The map looks up what was handed out, and has it in use. -/
structure Serves (calls : List Call) (events : List Event) (m : AliasMap) : Prop where
  answered : events.map Event.call = calls
  one_alias : ∀ path a b, .handed path a ∈ events → .handed path b ∈ events → a = b
  one_path : ∀ path other a, .handed path a ∈ events → .handed other a ∈ events → path = other
  lookup_some : ∀ path a, m.lookup? path = some a ↔ .handed path a ∈ events
  lookup_none : ∀ path, m.lookup? path = none ↔ .ask path ∉ calls
  heeds : Heeds events
  used : ∀ entry ∈ m.entries, entry.2 ∈ m.used

/-! ## Steps -/

/-- What a call may do to a map. -/
inductive Step (m : AliasMap) : Event → AliasMap → Prop where
  | reserved (name : String) : Step m (.reserved name) (m.reserve name)
  | found {path a} (h : m.lookup? path = some a) : Step m (.handed path a) m
  | recorded {path a} (h : m.lookup? path = none) (hnew : a ∉ m.used) : Step m (.handed path a) (m.record path a)

theorem step_perform (source : AliasSource) (m : AliasMap) (n : Nat) (call : Call) :
    m.Step (m.perform source n call).1 (m.perform source n call).2.1 := by
  cases call with
  | reserve name => exact .reserved name
  | ask path =>
    dsimp only [perform, allocate]
    cases h : m.lookup? path with
    | some a => exact .found h
    | none => exact .recorded h (source.draw_not_mem m.used n)

theorem call_perform (source : AliasSource) (m : AliasMap) (n : Nat) (call : Call) :
    (m.perform source n call).1.call = call := by
  cases call <;> rfl

theorem calls_run (source : AliasSource) (calls : List Call) (m : AliasMap) (n : Nat) :
    (m.run source n calls).1.map Event.call = calls := by
  induction calls generalizing m n with
  | nil => rfl
  | cons call calls ih => rw [run, List.map_cons, call_perform, ih]

theorem ask_mem_iff {events : List Event} {path : Path} :
    .ask path ∈ events.map Event.call ↔ ∃ a, .handed path a ∈ events := by
  rw [List.mem_map]
  constructor
  · rintro ⟨e, he, hcall⟩
    cases e with
    | reserved name => exact absurd hcall (by simp [Event.call])
    | handed other a =>
      obtain rfl := Call.ask.inj hcall
      exact ⟨a, he⟩
  · rintro ⟨a, he⟩
    exact ⟨.handed path a, he, rfl⟩

/-! ## The invariant -/

theorem heeds_nil : Heeds [] := by
  intro before after heq path a hmem
  rw [(List.append_eq_nil_iff.1 heq.symm).2] at hmem
  exact absurd hmem List.not_mem_nil

/-- An alias that is handed out once more, or that has not been reserved, may come next. -/
theorem Heeds.concat {events : List Event} {e : Event} (h : Heeds events)
    (he : ∀ path a, e = .handed path a → .handed path a ∈ events ∨ .reserved a ∉ events) : Heeds (events ++ [e]) := by
  intro before after heq path a hmem hfirst
  rcases List.eq_nil_or_concat' after with rfl | ⟨after, last, rfl⟩
  · exact absurd hmem List.not_mem_nil
  rw [← List.append_assoc] at heq
  obtain ⟨rfl, hlast⟩ := List.append_inj' heq rfl
  obtain rfl := List.singleton_inj.1 hlast
  rcases List.mem_append.1 hmem with hmem | hmem
  · exact h before after rfl path a hmem hfirst
  rcases he path a (List.mem_singleton.1 hmem).symm with hold | hnew
  · have hafter : .handed path a ∈ after := (List.mem_append.1 hold).resolve_left (hfirst a)
    exact h before after rfl path a hafter hfirst
  · exact fun hreserved => hnew (List.mem_append_left after hreserved)

/-- Whether a map is what some events have made of an empty one. -/
structure Fits (m : AliasMap) (events : List Event) : Prop where
  lookup : ∀ path a, m.lookup? path = some a ↔ .handed path a ∈ events
  injective : ∀ path other a, .handed path a ∈ events → .handed other a ∈ events → path = other
  entries_used : ∀ entry ∈ m.entries, entry.2 ∈ m.used
  handed_used : ∀ path a, .handed path a ∈ events → a ∈ m.used
  reserved_used : ∀ name, .reserved name ∈ events → name ∈ m.used
  heeds : Heeds events

theorem fits_empty : empty.Fits [] where
  lookup := by simp
  injective := by simp
  entries_used := by simp [empty]
  handed_used := by simp
  reserved_used := by simp
  heeds := heeds_nil

namespace Fits

variable {m m' : AliasMap} {events : List Event} {path : Path} {a : String}

theorem reserve (h : m.Fits events) (name : String) : (m.reserve name).Fits (events ++ [.reserved name]) where
  lookup := by simpa using h.lookup
  injective := by simpa using h.injective
  entries_used := fun entry hentry => List.mem_cons_of_mem name (h.entries_used entry hentry)
  handed_used := by
    intro path a hmem
    exact List.mem_cons_of_mem name (h.handed_used path a (by simpa using hmem))
  reserved_used := by
    intro other hmem
    rcases List.mem_append.1 hmem with hmem | hmem
    · exact List.mem_cons_of_mem name (h.reserved_used other hmem)
    · obtain rfl := Event.reserved.inj (List.mem_singleton.1 hmem)
      exact List.mem_cons_self
  heeds := h.heeds.concat fun _ _ heq => absurd heq (by simp)

/-- An alias that is handed out once more says nothing new of the map. -/
theorem found (h : m.Fits events) (hfound : m.lookup? path = some a) : m.Fits (events ++ [.handed path a]) := by
  have hold : .handed path a ∈ events := (h.lookup path a).1 hfound
  have hiff (e : Event) : e ∈ events ++ [.handed path a] ↔ e ∈ events := by
    rw [List.mem_append, List.mem_singleton]
    exact or_iff_left_of_imp fun heq => heq ▸ hold
  refine ⟨?_, ?_, h.entries_used, ?_, ?_, h.heeds.concat ?_⟩
  · simpa only [hiff] using h.lookup
  · simpa only [hiff] using h.injective
  · simpa only [hiff] using h.handed_used
  · simpa only [hiff] using h.reserved_used
  · rintro other b ⟨⟩
    exact .inl hold

/-- A name that is not in use is the alias of no path, and the path it is recorded for has had
none. -/
theorem record (h : m.Fits events) (hnone : m.lookup? path = none) (hnew : a ∉ m.used) :
    (m.record path a).Fits (events ++ [.handed path a]) := by
  have hunknown (other : Path) : .handed other a ∉ events := fun hmem => hnew (h.handed_used other a hmem)
  have hunasked (b : String) : .handed path b ∉ events := by
    intro hmem
    rw [(h.lookup path b).2 hmem] at hnone
    exact absurd hnone (Option.some_ne_none b)
  have hiff (other : Path) (b : String) :
      .handed other b ∈ events ++ [.handed path a] ↔ .handed other b ∈ events ∨ other = path ∧ b = a := by
    rw [List.mem_append, List.mem_singleton, Event.handed.injEq]
  constructor
  case lookup =>
    intro other b
    rw [lookup?_record, hiff]
    by_cases heq : other = path
    · subst heq
      simp [hunasked b, eq_comm]
    · simp [heq, h.lookup]
  case injective =>
    intro first second b hfirst hsecond
    rcases (hiff first b).1 hfirst with hold | ⟨hpath, rfl⟩
    · rcases (hiff second b).1 hsecond with hold' | ⟨-, rfl⟩
      · exact h.injective first second b hold hold'
      · exact absurd hold (hunknown first)
    · rcases (hiff second b).1 hsecond with hold' | ⟨hpath', -⟩
      · exact absurd hold' (hunknown second)
      · exact hpath.trans hpath'.symm
  case entries_used =>
    refine List.forall_mem_cons.2 ⟨List.mem_cons_self, fun entry hentry => ?_⟩
    exact List.mem_cons_of_mem a (h.entries_used entry hentry)
  case handed_used =>
    intro other b hmem
    rcases (hiff other b).1 hmem with hmem | ⟨-, rfl⟩
    · exact List.mem_cons_of_mem a (h.handed_used other b hmem)
    · exact List.mem_cons_self
  case reserved_used =>
    intro name hmem
    exact List.mem_cons_of_mem a (h.reserved_used name (by simpa using hmem))
  case heeds =>
    refine h.heeds.concat ?_
    rintro other b ⟨⟩
    exact .inr fun hreserved => hnew (h.reserved_used a hreserved)

/-- A step keeps the invariant. -/
theorem step {e : Event} (h : m.Fits events) (hstep : m.Step e m') : m'.Fits (events ++ [e]) := by
  cases hstep with
  | reserved name => exact h.reserve name
  | found hfound => exact h.found hfound
  | recorded hnone hnew => exact h.record hnone hnew

theorem run (source : AliasSource) (calls : List Call) (n : Nat) (h : m.Fits events) :
    (m.run source n calls).2.1.Fits (events ++ (m.run source n calls).1) := by
  induction calls generalizing m n events with
  | nil => rwa [AliasMap.run, List.append_nil]
  | cons call calls ih =>
    have hrest := ih (m.perform source n call).2.2 (h.step (m.step_perform source n call))
    rwa [List.append_assoc] at hrest

end Fits

/-- Whatever is reserved and asked for, in whatever order, and whatever tokens the source draws, the
calls on a new map are served. -/
theorem serves_run (source : AliasSource) (n : Nat) (calls : List Call) :
    Serves calls (empty.run source n calls).1 (empty.run source n calls).2.1 := by
  have hcalls := calls_run source calls empty n
  have hfits := fits_empty.run source calls n
  rw [List.nil_append] at hfits
  generalize (empty.run source n calls).1 = events at hcalls hfits ⊢
  generalize (empty.run source n calls).2.1 = m at hfits ⊢
  refine ⟨hcalls, ?_, hfits.injective, hfits.lookup, ?_, hfits.heeds, hfits.entries_used⟩
  · intro path a b ha hb
    have heq := ((hfits.lookup path a).2 ha).symm.trans ((hfits.lookup path b).2 hb)
    exact Option.some.inj heq
  · intro path
    rw [← hcalls, ask_mem_iff, Option.eq_none_iff_forall_ne_some, not_exists]
    exact forall_congr' fun a => not_congr (hfits.lookup path a)

end AliasMap

/-- A source that begins with some tokens, repeated ones included, and goes on with tokens of
letters. Calls that come to an end draw only so many tokens, so every one of their runs is one on
such a source. -/
def AliasSource.beginning (tokens : List String) : AliasSource where
  token n := tokens.getD n (wordToken n)
  reach used _ := tokens.length + (used.length + 1)
  exists_unused used n := by
    obtain ⟨i, hi, hunused⟩ := exists_wordToken_not_mem 0 used (n + tokens.length)
    refine ⟨tokens.length + i, Nat.add_lt_add_left hi _, ?_⟩
    rw [List.getD_eq_default _ _ (by omega)]
    rwa [Nat.zero_add, Nat.add_assoc] at hunused

-- a reserved token and one in use are drawn in vain, and what is reserved too late changes nothing
example : (AliasMap.empty.run (.beginning ["users", "abcde", "abcde", "fghij"]) 0
    [.reserve "users", .ask ["author"], .ask ["editor"], .reserve "abcde", .ask ["author"]]).1 =
      [.reserved "users", .handed ["author"] "abcde", .handed ["editor"] "fghij", .reserved "abcde",
        .handed ["author"] "abcde"] := by
  decide

end PathQuery
