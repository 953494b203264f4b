/-!
# Proofs.Outcome — steps that may fail

A chain of steps fails with its first error (`FailsFirst`), and an answer of the chain is an answer of every step.  A
chain that fails stops at one step (`StopsAt`), and where two chains are put together it is known in which of them.
Chains whose steps answer and fail together on states that correspond (`StepsAgree`) answer together, or stop at the
same item.
-/
namespace Partitura

variable {ε ε' α β γ : Type}

@[simp] theorem ok_bind (a : α) (f : α → Except ε β) : (Except.ok a >>= f) = f a := rfl

@[simp] theorem error_bind (e : ε) (f : α → Except ε β) : (Except.error e >>= f) = .error e := rfl

@[simp] theorem pure_eq_ok (a : α) : (pure a : Except ε α) = .ok a := rfl

@[simp] theorem throw_eq_error (e : ε) : (throw e : Except ε α) = .error e := rfl

/-- **An answer of two steps** is an answer of the second from an answer of the first. -/
theorem bind_eq_ok_iff {x : Except ε α} {f : α → Except ε β} {b : β} :
    (x >>= f) = .ok b ↔ ∃ a, x = .ok a ∧ f a = .ok b := by
  cases x with
  | error e => simp
  | ok a => simp

/-- An error of two steps is one of the first, or one of the second from an answer of the first. -/
theorem bind_eq_error_iff {x : Except ε α} {f : α → Except ε β} {e : ε} :
    (x >>= f) = .error e ↔ x = .error e ∨ ∃ a, x = .ok a ∧ f a = .error e := by
  cases x with
  | error e' => simp
  | ok a => simp

/-- **A check before a step** has to pass. -/
theorem check_bind_eq_ok_iff {x : Except ε Unit} {f : Unit → Except ε β} {b : β} :
    (x >>= f) = .ok b ↔ x = .ok () ∧ f () = .ok b := by
  rw [bind_eq_ok_iff]
  exact ⟨fun ⟨⟨⟩, hx, hf⟩ => ⟨hx, hf⟩, fun ⟨hx, hf⟩ => ⟨(), hx, hf⟩⟩

theorem map_eq_ok_iff {x : Except ε α} {f : α → β} {b : β} :
    (f <$> x) = .ok b ↔ ∃ a, x = .ok a ∧ f a = b := by
  cases x with
  | error e => simp [Functor.map, Except.map]
  | ok a => simp [Functor.map, Except.map]

theorem map_eq_error_iff {x : Except ε α} {f : α → β} {e : ε} : f <$> x = .error e ↔ x = .error e := by
  cases x with
  | error e' => simp [Functor.map, Except.map]
  | ok a => simp [Functor.map, Except.map]

theorem elim_eq_ok_iff {found : Option α} {e : ε} {a : α} :
    found.elim (Except.error e) Except.ok = .ok a ↔ found = some a := by
  cases found with
  | none => simp
  | some b => simp

/-- **Reading what was written**, item by item. -/
theorem mapM_map_pure {m : Type → Type} [Monad m] [LawfulMonad m] {write : α → β} {read : β → m α} : ∀ {items : List α},
    (∀ item ∈ items, read (write item) = pure item) → (items.map write).mapM read = pure items
  | [], _ => rfl
  | item :: items, h => by
    rw [List.forall_mem_cons] at h
    rw [List.map_cons, List.mapM_cons, h.1, pure_bind, mapM_map_pure h.2, pure_bind]

/-- **Writing what was read**, item by item. -/
theorem map_of_mapM_eq_ok {read : α → Except ε β} {write : β → γ} {normal : α → γ} :
    ∀ {items : List α} {answers : List β}, items.mapM read = .ok answers →
      (∀ item ∈ items, ∀ b, read item = .ok b → write b = normal item) → answers.map write = items.map normal
  | [], answers, h, _ => by
    cases h
    rfl
  | item :: items, answers, h, hwrite => by
    rw [List.mapM_cons] at h
    obtain ⟨b, hb, h⟩ := bind_eq_ok_iff.1 h
    obtain ⟨rest, hrest, h⟩ := bind_eq_ok_iff.1 h
    cases h
    rw [List.forall_mem_cons] at hwrite
    rw [List.map_cons, List.map_cons, hwrite.1 b hb, map_of_mapM_eq_ok hrest hwrite.2]

/-! ## The first of several errors -/

/-- **An outcome fails with the first of these errors**, and answers if there are none. -/
def FailsFirst (x : Except ε α) (errors : List ε) : Prop := ∀ e, x = .error e ↔ errors.head? = some e

theorem failsFirst_ok (a : α) : FailsFirst (.ok a : Except ε α) [] := fun _ => iff_of_false nofun nofun

theorem failsFirst_error (e : ε) : FailsFirst (.error e : Except ε α) [e] := fun e' => by simp

/-- What is found, or else is an error. -/
theorem failsFirst_elim {known : Prop} [Decidable known] {found : Option α} (h : found = none ↔ ¬ known) (e : ε) :
    FailsFirst (found.elim (.error e) .ok) (if known then [] else [e]) := by
  cases found with
  | none =>
    rw [if_neg (h.1 rfl)]
    exact failsFirst_error e
  | some a =>
    rw [if_pos (Decidable.not_not.1 fun hno => absurd (h.2 hno) nofun)]
    exact failsFirst_ok a

/-- What has to hold, or else is an error. -/
def demand (holds : Bool) (e : ε) : Except ε Unit := if holds then .ok () else .error e

/-- The error of what has to hold and does not. -/
def faultUnless (holds : Prop) [Decidable holds] (e : ε) : List ε := if holds then [] else [e]

theorem demand_eq_ok_iff {holds : Bool} {e : ε} : demand holds e = .ok () ↔ holds = true := by
  cases holds <;> simp [demand]

theorem failsFirst_demand {test : Bool} {holds : Prop} [Decidable holds] (h : test = true ↔ holds) (e : ε) :
    FailsFirst (demand test e) (faultUnless holds e) := by
  unfold demand faultUnless
  by_cases hholds : holds
  · rw [if_pos (h.2 hholds), if_pos hholds]
    exact failsFirst_ok ()
  · rw [if_neg (mt h.1 hholds), if_neg hholds]
    exact failsFirst_error e

theorem FailsFirst.exists_ok_iff {x : Except ε α} {errors : List ε} (h : FailsFirst x errors) :
    (∃ a, x = .ok a) ↔ errors = [] := by
  cases x with
  | error e =>
    refine iff_of_false nofun ?_
    rintro rfl
    exact absurd ((h e).1 rfl) nofun
  | ok a =>
    refine iff_of_true ⟨a, rfl⟩ ?_
    cases errors with
    | nil => rfl
    | cons e errors => exact absurd ((h e).2 rfl) nofun

/-- Two steps fail with the first error of the first step, or else with that of the second. -/
theorem FailsFirst.bind {x : Except ε α} {f : α → Except ε β} {errors errors' : List ε} (hx : FailsFirst x errors)
    (hf : ∀ a, FailsFirst (f a) errors') : FailsFirst (x >>= f) (errors ++ errors') := by
  intro e
  cases x with
  | error e' =>
    rw [error_bind, List.head?_append, (hx e').1 rfl, Option.some_or, Except.error.injEq, Option.some.injEq]
  | ok a =>
    rw [ok_bind, hx.exists_ok_iff.1 ⟨a, rfl⟩, List.nil_append]
    exact hf a e

theorem FailsFirst.bind_ok {x : Except ε α} {errors : List ε} (hx : FailsFirst x errors) (f : α → β) :
    FailsFirst (x >>= fun a => .ok (f a)) errors := by
  have hthen := hx.bind fun a => failsFirst_ok (f a)
  rwa [List.append_nil] at hthen

theorem FailsFirst.map {x : Except ε α} {errors : List ε} (hx : FailsFirst x errors) (f : α → β) :
    FailsFirst (f <$> x) errors :=
  fun e => map_eq_error_iff.trans (hx e)

theorem FailsFirst.mapM {f : α → Except ε β} {errors : α → List ε} (h : ∀ item, FailsFirst (f item) (errors item)) :
    ∀ items : List α, FailsFirst (items.mapM f) (items.flatMap errors)
  | [] => failsFirst_ok []
  | item :: items => by
    rw [List.mapM_cons, List.flatMap_cons]
    exact (h item).bind fun b => (FailsFirst.mapM h items).bind_ok (b :: ·)

/-! ## Where a chain of steps stops -/

/-- **A chain of steps stops** at the item of this number: the steps before it are done, and this one fails. -/
def StopsAt (step : β → α → Except ε β) (b : β) (items : List α) (i : Nat) (e : ε) : Prop :=
  ∃ item reached, items[i]? = some item ∧ (items.take i).foldlM step b = .ok reached ∧ step reached item = .error e

variable {step : β → α → Except ε β} {b : β}

theorem StopsAt.lt_length {items : List α} {i : Nat} {e : ε} (h : StopsAt step b items i e) : i < items.length := by
  obtain ⟨item, -, hitem, -⟩ := h
  exact (List.getElem?_eq_some_iff.1 hitem).1

theorem stopsAt_cons_zero {item : α} {items : List α} {e : ε} :
    StopsAt step b (item :: items) 0 e ↔ step b item = .error e := by
  simp [StopsAt]

theorem stopsAt_cons_succ {item : α} {items : List α} {i : Nat} {e : ε} :
    StopsAt step b (item :: items) (i + 1) e ↔ ∃ b', step b item = .ok b' ∧ StopsAt step b' items i e := by
  simp only [StopsAt, List.getElem?_cons_succ, List.take_succ_cons, List.foldlM_cons, bind_eq_ok_iff]
  constructor
  · rintro ⟨next, reached, hnext, ⟨b', hstep, hdone⟩, hfails⟩
    exact ⟨b', hstep, next, reached, hnext, hdone, hfails⟩
  · rintro ⟨b', hstep, next, reached, hnext, hdone, hfails⟩
    exact ⟨next, reached, hnext, ⟨b', hstep, hdone⟩, hfails⟩

/-- **A chain fails** where it stops, and with the error of that step. -/
theorem foldlM_eq_error_iff : ∀ {items : List α} {b : β} {e : ε},
    items.foldlM step b = .error e ↔ ∃ i, StopsAt step b items i e
  | [], b, e => by simp [StopsAt]
  | item :: items, b, e => by
    rw [List.foldlM_cons]
    cases hstep : step b item with
    | error e' =>
      rw [error_bind]
      constructor
      · intro h
        exact ⟨0, stopsAt_cons_zero.2 (hstep.trans h)⟩
      · rintro ⟨i, hi⟩
        cases i with
        | zero => exact hstep.symm.trans (stopsAt_cons_zero.1 hi)
        | succ i =>
          obtain ⟨b', hb', -⟩ := stopsAt_cons_succ.1 hi
          exact absurd (hstep.symm.trans hb') nofun
    | ok b' =>
      rw [ok_bind, foldlM_eq_error_iff]
      constructor
      · rintro ⟨i, hi⟩
        exact ⟨i + 1, stopsAt_cons_succ.2 ⟨b', hstep, hi⟩⟩
      · rintro ⟨i, hi⟩
        cases i with
        | zero => exact absurd (hstep.symm.trans (stopsAt_cons_zero.1 hi)) nofun
        | succ i =>
          obtain ⟨b'', hb'', hstops⟩ := stopsAt_cons_succ.1 hi
          cases hstep.symm.trans hb''
          exact ⟨i, hstops⟩

theorem StopsAt.unique {items : List α} {i j : Nat} {e e' : ε} (h : StopsAt step b items i e)
    (h' : StopsAt step b items j e') : i = j ∧ e = e' := by
  have hfails := foldlM_eq_error_iff.2 ⟨i, h⟩
  have hfails' := foldlM_eq_error_iff.2 ⟨j, h'⟩
  refine ⟨?_, Except.error.inj (hfails.symm.trans hfails')⟩
  -- A step that fails is none of those that were done before a later one.
  have hbefore : ∀ {i j e e'}, StopsAt step b items i e → StopsAt step b items j e' → ¬ i < j := by
    rintro i j e e' ⟨item, reached, hitem, hdone, hfail⟩ ⟨-, reached', -, hdone', -⟩ hij
    have hsplit : items.take j = items.take i ++ item :: (items.drop (i + 1)).take (j - (i + 1)) := by
      obtain ⟨hi, rfl⟩ := List.getElem?_eq_some_iff.1 hitem
      obtain ⟨k, rfl⟩ := Nat.exists_eq_add_of_le (Nat.succ_le_of_lt hij)
      rw [Nat.add_sub_cancel_left, List.take_add, List.take_succ_eq_append_getElem hi, List.append_assoc,
        List.singleton_append]
    rw [hsplit, List.foldlM_append, hdone, ok_bind, List.foldlM_cons, hfail] at hdone'
    cases hdone'
  have := hbefore h h'
  have := hbefore h' h
  omega

/-- **A chain in two parts** stops in the first, or in the second once the first is done. -/
theorem stopsAt_append_iff {before after : List α} {i : Nat} {e : ε} :
    StopsAt step b (before ++ after) i e ↔ StopsAt step b before i e ∨
      ∃ b' j, before.foldlM step b = .ok b' ∧ i = before.length + j ∧ StopsAt step b' after j e := by
  by_cases hi : i < before.length
  · simp only [StopsAt, List.getElem?_append_left hi, List.take_append_of_le_length (Nat.le_of_lt hi)]
    refine ⟨Or.inl, fun h => h.resolve_right ?_⟩
    rintro ⟨-, j, -, hj, -⟩
    omega
  · obtain ⟨j, rfl⟩ := Nat.exists_eq_add_of_le (Nat.le_of_not_lt hi)
    have hno : ¬ StopsAt step b before (before.length + j) e := fun h => by
      have := h.lt_length
      omega
    rw [or_iff_right hno]
    simp only [StopsAt, List.getElem?_append_right (Nat.le_add_right _ j), Nat.add_sub_cancel_left,
      List.take_length_add_append, List.foldlM_append, bind_eq_ok_iff]
    constructor
    · rintro ⟨item, reached, hitem, ⟨b', hdone, hreached⟩, hfails⟩
      exact ⟨b', j, hdone, rfl, item, reached, hitem, hreached, hfails⟩
    · rintro ⟨b', j', hdone, hj, item, reached, hitem, hreached, hfails⟩
      obtain rfl : j = j' := Nat.add_left_cancel hj
      exact ⟨item, reached, hitem, ⟨b', hdone, hreached⟩, hfails⟩

theorem stopsAt_map_iff {f : γ → α} {items : List γ} {i : Nat} {e : ε} :
    StopsAt step b (items.map f) i e ↔ StopsAt (fun b item => step b (f item)) b items i e := by
  simp only [StopsAt, List.getElem?_map, Option.map_eq_some_iff, ← List.map_take, List.foldlM_map]
  constructor
  · rintro ⟨-, reached, ⟨item, hitem, rfl⟩, hdone, hfails⟩
    exact ⟨item, reached, hitem, hdone, hfails⟩
  · rintro ⟨item, reached, hitem, hdone, hfails⟩
    exact ⟨f item, reached, ⟨item, hitem, rfl⟩, hdone, hfails⟩

/-! ## Chains that go together -/

/-- **Two steps agree**: from states that correspond, both answer, and with states that correspond, or both fail, and
with errors that correspond. -/
structure StepsAgree (step : β → α → Except ε β) (step' : γ → α → Except ε' γ) (States : β → γ → Prop)
    (Errors : α → ε → ε' → Prop) : Prop where
  answers : ∀ {b c item b'}, States b c → step b item = .ok b' → ∃ c', step' c item = .ok c' ∧ States b' c'
  fails : ∀ {b c item e}, States b c → step b item = .error e → ∃ e', step' c item = .error e' ∧ Errors item e e'

namespace StepsAgree

variable {step' : γ → α → Except ε' γ} {States : β → γ → Prop} {Errors : α → ε → ε' → Prop}
  (h : StepsAgree step step' States Errors)
include h

theorem foldlM_ok : ∀ {items : List α} {b b' : β} {c : γ}, States b c → items.foldlM step b = .ok b' →
    ∃ c', items.foldlM step' c = .ok c' ∧ States b' c'
  | [], b, b', c, hstates, hok => by
    cases hok
    exact ⟨c, rfl, hstates⟩
  | item :: items, b, b', c, hstates, hok => by
    rw [List.foldlM_cons] at hok
    obtain ⟨reached, hitem, hrest⟩ := bind_eq_ok_iff.1 hok
    obtain ⟨reached', hitem', hreached⟩ := h.answers hstates hitem
    rw [List.foldlM_cons, hitem', ok_bind]
    exact foldlM_ok hreached hrest

theorem stopsAt {items : List α} {b : β} {c : γ} {i : Nat} {e : ε} (hstates : States b c)
    (hstops : StopsAt step b items i e) :
    ∃ item e', items[i]? = some item ∧ StopsAt step' c items i e' ∧ Errors item e e' := by
  obtain ⟨item, reached, hitem, hdone, hfails⟩ := hstops
  obtain ⟨reached', hdone', hreached⟩ := h.foldlM_ok hstates hdone
  obtain ⟨e', hfails', herrors⟩ := h.fails hreached hfails
  exact ⟨item, e', hitem, ⟨item, reached', hitem, hdone', hfails'⟩, herrors⟩

end StepsAgree

end Partitura
