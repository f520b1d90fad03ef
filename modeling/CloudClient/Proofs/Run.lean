import CloudClient.Api.Script

namespace CloudClient

namespace Except

variable {ε α β : Type}

@[simp] theorem ok_bind (a : α) (f : α → Except ε β) : (.ok a >>= f) = f a := rfl

@[simp] theorem error_bind (fault : ε) (f : α → Except ε β) :
    (.error fault >>= f) = (.error fault : Except ε β) := rfl

@[simp] theorem map_ok (f : α → β) (a : α) : (f <$> .ok a : Except ε β) = .ok (f a) := rfl

@[simp] theorem map_error (f : α → β) (fault : ε) :
    (f <$> .error fault : Except ε β) = .error fault := rfl

/-- A sequence that returned ran both its parts to the end. -/
theorem bind_eq_ok {x : Except ε α} {f : α → Except ε β} {b : β} (ran : (x >>= f) = .ok b) :
    ∃ a, x = .ok a ∧ f a = .ok b := by
  cases x with
  | error fault => cases ran
  | ok a => exact ⟨a, rfl, ran⟩

/-- A traversal returns exactly when a partial one that agrees with it item by item returns. -/
theorem mapM_eq_ok_iff {γ : Type} {f : α → Except ε β} {g : α → Option γ} {h : γ → β}
    (agree : ∀ a b, f a = .ok b ↔ ∃ c, g a = some c ∧ h c = b) (xs : List α) (bs : List β) :
    xs.mapM f = .ok bs ↔ ∃ cs, xs.mapM g = some cs ∧ cs.map h = bs := by
  induction xs generalizing bs with
  | nil =>
    simp only [List.mapM_nil]
    constructor
    · rintro ⟨⟩
      exact ⟨[], rfl, rfl⟩
    · rintro ⟨cs, ⟨⟩, rfl⟩
      rfl
  | cons x rest ih =>
    simp only [List.mapM_cons]
    cases found : g x with
    | none =>
      -- an item the partial traversal refuses fails the other one too
      have refused : ∀ b, f x ≠ .ok b := fun b accepted => by
        obtain ⟨c, some, -⟩ := (agree x b).mp accepted
        rw [found] at some
        cases some
      cases made : f x with
      | ok b => exact absurd made (refused b)
      | error fault => simp
    | some c =>
      rw [show f x = .ok (h c) from (agree x (h c)).mpr ⟨c, found, rfl⟩]
      cases later : rest.mapM f with
      | error fault =>
        have none : ∀ cs, rest.mapM g ≠ some cs := fun cs traversed => by
          obtain ⟨⟩ := later ▸ (ih (cs.map h)).mpr ⟨cs, traversed, rfl⟩
        cases traversal : rest.mapM g with
        | none => simp
        | some cs => exact absurd traversal (none cs)
      | ok bs' =>
        obtain ⟨cs', traversed, rfl⟩ := (ih bs').mp later
        simp [traversed]

/-- Every fault a computation may stop with satisfies `P`. -/
def Faults (P : ε → Prop) (x : Except ε α) : Prop := ∀ fault, x = .error fault → P fault

section Faults

variable {P : ε → Prop}

theorem faults_ok (a : α) : Faults P (.ok a : Except ε α) := fun _ never => by cases never

theorem faults_bind {x : Except ε α} {f : α → Except ε β} (first : Faults P x)
    (next : ∀ a, Faults P (f a)) : Faults P (x >>= f) := by
  intro fault failed
  cases x with
  | error early => exact first fault (by simpa using failed)
  | ok a => exact next a fault failed

theorem faults_map (g : α → β) {x : Except ε α} (first : Faults P x) : Faults P (g <$> x) := by
  intro fault failed
  cases x with
  | error early => exact first fault (by simpa using failed)
  | ok a => cases failed

theorem faults_mapM {f : α → Except ε β} (each : ∀ a, Faults P (f a)) :
    ∀ xs : List α, Faults P (xs.mapM f)
  | [] => faults_ok []
  | x :: rest => by
    rw [List.mapM_cons]
    exact faults_bind (each x) fun _ => faults_bind (faults_mapM each rest) fun _ => faults_ok _

end Faults

theorem not_isOk_iff (x : Except ε α) : x.isOk = false ↔ ∃ fault, x = .error fault := by
  cases x <;> simp [Except.isOk, Except.toBool]

theorem isOk_map (g : α → β) (x : Except ε α) : (g <$> x).isOk = x.isOk := by
  cases x <;> rfl

/-- Two computations whose results are combined return exactly when both do. -/
theorem isOk_pair {γ : Type} (x : Except ε α) (y : Except ε β) (g : α → β → γ) :
    (x >>= fun a => y >>= fun b => pure (g a b)).isOk = (x.isOk && y.isOk) := by
  cases x <;> cases y <;> rfl

theorem isOk_triple {γ δ : Type} (x : Except ε α) (y : Except ε β) (z : Except ε γ)
    (g : α → β → γ → δ) :
    (x >>= fun a => y >>= fun b => z >>= fun c => pure (g a b c)).isOk =
      (x.isOk && y.isOk && z.isOk) := by
  cases x <;> cases y <;> cases z <;> rfl

end Except

namespace Api

variable {α β : Type}

@[simp] theorem run_pure (a : α) (world : World) : (pure a : Api α).run world = (.ok a, world) :=
  rfl

@[simp] theorem run_throw (fault : Fault) (world : World) :
    (throw fault : Api α).run world = (.error fault, world) := rfl

@[simp] theorem lift_ok (a : α) : lift (.ok a : Except Fault α) = pure a := rfl

@[simp] theorem lift_error (fault : Fault) : lift (.error fault : Except Fault α) = throw fault := rfl

/-- A lifted computation leaves the world as it was. -/
@[simp] theorem run_lift (outcome : Except Fault α) (world : World) :
    (lift outcome).run world = (outcome, world) := by
  cases outcome <;> rfl

/-- Lifted computations run in sequence are the lift of their sequence. -/
theorem lift_bind (x : Except Fault α) (f : α → Except Fault β) :
    (lift x >>= fun a => lift (f a)) = lift (x >>= f) := by
  cases x <;> rfl

/-- A sequence runs its second part from the world the first left, unless the first failed. -/
theorem run_bind (x : Api α) (f : α → Api β) (world : World) :
    (x >>= f).run world =
      match x.run world with
      | (.ok a, after) => (f a).run after
      | (.error fault, after) => (.error fault, after) := by
  unfold run ExceptT.run StateT.run
  simp only [bind, ExceptT.bind, ExceptT.mk, StateT.bind, ExceptT.bindCont]
  rcases x world with ⟨_ | a, after⟩ <;> rfl

/-- A sequence that returned ran both its parts to the end. -/
theorem run_bind_eq_ok {x : Api α} {f : α → Api β} {world after : World} {b : β}
    (ran : (x >>= f).run world = (.ok b, after)) :
    ∃ a between, x.run world = (.ok a, between) ∧ (f a).run between = (.ok b, after) := by
  rw [run_bind] at ran
  rcases first : x.run world with ⟨_ | a, between⟩
  · rw [first] at ran
    cases ran
  · rw [first] at ran
    exact ⟨a, between, rfl, ran⟩

/-- A sequence whose first part returned runs its second part from where the first ended. -/
theorem run_bind_of_ok {x : Api α} {f : α → Api β} {world after : World} {a : α}
    (first : x.run world = (.ok a, after)) : (x >>= f).run world = (f a).run after := by
  rw [run_bind, first]

/-- A sequence whose first part failed fails with it, where it failed. -/
theorem run_bind_of_error {x : Api α} {f : α → Api β} {world after : World} {fault : Fault}
    (first : x.run world = (.error fault, after)) : (x >>= f).run world = (.error fault, after) := by
  rw [run_bind, first]

theorem run_map (f : α → β) (x : Api α) (world : World) :
    (f <$> x).run world = ((x.run world).1.map f, (x.run world).2) := by
  rw [map_eq_pure_bind, run_bind]
  rcases x.run world with ⟨_ | a, after⟩ <;> rfl

/-- A request is recorded and takes the head of the script. -/
@[simp] theorem run_exchange (request : Exchange) (world : World) :
    (exchange request).run world =
      (.ok world.replies.head?,
        { world with sent := world.sent ++ [request], replies := world.replies.drop 1 }) := rfl

/-- A storage listing takes the head of the storage script. -/
@[simp] theorem run_nextListing (world : World) :
    nextListing.run world =
      (.ok world.listings.head?, { world with listings := world.listings.drop 1 }) := rfl

/-- A line is written after those before it. -/
@[simp] theorem run_say (line : String) (world : World) :
    (say line).run world = (.ok ⟨⟩, { world with lines := world.lines ++ [line] }) := rfl

@[simp] theorem run_getThe (world : World) : (getThe World : Api World).run world = (.ok world, world) :=
  rfl

@[simp] theorem run_get (world : World) : (get : Api World).run world = (.ok world, world) := rfl

@[simp] theorem run_set (world next : World) : (set next : Api PUnit).run world = (.ok ⟨⟩, next) :=
  rfl

@[simp] theorem run_modify (f : World → World) (world : World) :
    (modify f : Api PUnit).run world = (.ok ⟨⟩, f world) := rfl

end Api

end CloudClient
