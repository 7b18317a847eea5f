import BlockTemplate.Proofs.Processor.NameKey

/-!
# Recorded processors

A recorder stands between a processor and its host. It writes down every question to a resolver
and every call of a function with the answer, and passes both on unchanged.

## Implementation notes

Built-in functions answer without the host, so the recorder registers each of them under its name,
behind the functions that are registered already. The host is a state that resolvers and functions
may read and change; nothing is assumed about it.

Main statements: the recorder leaves every function in its place (`function?_recorded`), and a
recorded computation is put together from recorded parts (`Records.bind`).
-/

namespace BlockTemplate

open Processor (Reference)

/-- A question to the host and its answer. -/
inductive Exchange where
  /-- The resolver at a position was asked for a variable. -/
  | asked (position : Nat) (reference : Reference) (answer : Except String (Option Value))
  /-- The function of a key was called. -/
  | called (key : String) (input : Value) (args : List Value) (formatting : Formatting)
      (answer : Except FunctionError Value)

/-- Computations that write exchanges down, the oldest first. -/
abbrev Recording (m : Type → Type) := StateT (List Exchange) m

section

variable {m : Type → Type} [Monad m]

/-- Waits for an answer and writes the exchange down. -/
def Recording.note {α : Type} (exchange : α → Exchange) (x : m α) : Recording m α := fun log => do
  let answer ← x
  pure (answer, log ++ [exchange answer])

def Resolver.recorded (position : Nat) (r : Resolver m) : Resolver (Recording m) :=
  fun name specifier => Recording.note (.asked position ⟨name, specifier⟩) (r name specifier)

def HostFunction.recorded (key : String) (f : HostFunction m) : HostFunction (Recording m) :=
  fun input args formatting =>
    Recording.note (.called key input args formatting) (f input args formatting)

/-- A built-in function as one that the host could register. -/
def Builtin.onHost (present : Calendar.Moment) (b : Builtin) : HostFunction m :=
  fun input args formatting => pure (b.call present input args formatting)

namespace Processor

/-- The functions of a processor with their names, the built-in ones behind those that hide them. -/
def allFunctions (p : Processor m) : List (String × HostFunction m) :=
  p.functions ++ Builtin.all.map fun b => (b.name, b.onHost p.present)

/-- A processor with a recorder before its host. -/
def recorded (p : Processor m) : Processor (Recording m) where
  settings := p.settings
  resolvers := p.resolvers.mapIdx Resolver.recorded
  functions := p.allFunctions.map fun f => (f.1, f.2.recorded f.1)
  present := p.present

@[simp] theorem settings_recorded (p : Processor m) : p.recorded.settings = p.settings := rfl

theorem registered?_recorded (p : Processor m) (key : String) :
    p.recorded.registered? key =
      ((p.registered? key).or ((Builtin.ofName? key).map (Builtin.onHost p.present))).map
        (HostFunction.recorded key) := by
  have hbuiltin : (Builtin.all.map fun b => (b.name, b.onHost (m := m) p.present)).find?
      (fun f => f.1 = key) = (Builtin.ofName? key).map fun b => (b.name, b.onHost p.present) := by
    rw [List.find?_map]
    rfl
  have hfirst : p.allFunctions.find? (fun f => f.1 = key) =
      (p.functions.find? fun f => f.1 = key).or
        ((Builtin.ofName? key).map fun b => (b.name, b.onHost p.present)) := by
    rw [allFunctions, List.find?_append, hbuiltin]
  calc
    p.recorded.registered? key =
        (p.allFunctions.find? fun f => f.1 = key).map fun f => f.2.recorded f.1 := by
      simp only [registered?, recorded, List.find?_map, Option.map_map]
      rfl
    _ = (p.allFunctions.find? fun f => f.1 = key).map fun f => f.2.recorded key :=
      Option.map_congr fun f hf => by
        have hkey : f.1 = key := by simpa using List.find?_some hf
        rw [hkey]
    _ = _ := by
      rw [hfirst, registered?]
      cases p.functions.find? fun f => f.1 = key with
      | some f => rfl
      | none => cases Builtin.ofName? key <;> rfl

/-- A name stands for the same function before and behind the recorder. -/
theorem function?_recorded (p : Processor m) {name : String} (h : IsName name) :
    p.recorded.function? name = (p.function? name).map (HostFunction.recorded (nameKey name)) := by
  have hfind : Builtin.find? (nameKey name) = Builtin.ofName? (nameKey name) := by
    rw [Builtin.find?, lowerString_nameKey h]
  simp only [function?, registered?_recorded, hfind]
  cases p.registered? (nameKey name) with
  | some f => rfl
  | none => cases Builtin.ofName? (nameKey name) <;> rfl

end Processor

end

/-! ### Recorded computations -/

section

variable {σ ε α β : Type}

/-- Behind the recorder a computation gives the same result and leaves the same state of the host,
and the exchanges that it adds to the record are among those that `P` allows for the result. -/
def Records (recorded : ExceptT ε (Recording (StateM σ)) α) (plain : ExceptT ε (StateM σ) α)
    (P : List Exchange → Except ε α → Prop) : Prop :=
  ∀ log world, ∃ events result world',
    ((recorded.run.run log).run world).run = ((result, log ++ events), world') ∧
      (plain.run.run world).run = (result, world') ∧ P events result

namespace Records

variable {y : ExceptT ε (Recording (StateM σ)) α} {x : ExceptT ε (StateM σ) α}
  {P Q : List Exchange → Except ε α → Prop} {R : List Exchange → Except ε β → Prop}

theorem weaken (h : Records y x P) (hPQ : ∀ events result, P events result → Q events result) :
    Records y x Q := by
  intro log world
  obtain ⟨events, result, world', hy, hx, hP⟩ := h log world
  exact ⟨events, result, world', hy, hx, hPQ events result hP⟩

protected theorem pure {a : α} (h : P [] (.ok a)) :
    Records (pure a) (pure a : ExceptT ε (StateM σ) α) P :=
  fun log world => ⟨[], .ok a, world, by rw [List.append_nil]; rfl, rfl, h⟩

protected theorem throw {e : ε} (h : P [] (.error e)) :
    Records (throw e) (throw e : ExceptT ε (StateM σ) α) P :=
  fun log world => ⟨[], .error e, world, by rw [List.append_nil]; rfl, rfl, h⟩

/-- What comes second adds its exchanges behind those of what comes first. After a failure nothing
comes second. -/
protected theorem bind {g : α → ExceptT ε (Recording (StateM σ)) β} {f : α → ExceptT ε (StateM σ) β}
    (h : Records y x P) (herr : ∀ events e, P events (.error e) → R events (.error e))
    (hok : ∀ events a, P events (.ok a) →
      Records (g a) (f a) fun more result => R (events ++ more) result) :
    Records (y >>= g) (x >>= f) R := by
  intro log world
  obtain ⟨events, result, world', hy, hx, hP⟩ := h log world
  cases result with
  | error e =>
      refine ⟨events, .error e, world', ?_, ?_, herr events e hP⟩
      · simp [ExceptT.run_bind, hy]
      · simp [ExceptT.run_bind, hx]
  | ok a =>
      obtain ⟨more, result, world'', hg, hf, hR⟩ := hok events a hP (log ++ events) world'
      refine ⟨events ++ more, result, world'', ?_, ?_, hR⟩
      · simp [ExceptT.run_bind, hy, hg, List.append_assoc]
      · simp [ExceptT.run_bind, hx, hf]

/-- An exchange with the host stands before those of what is done with the answer. -/
theorem exchange_bind {exchange : α → Exchange} {host : StateM σ α}
    {g : α → ExceptT ε (Recording (StateM σ)) β} {f : α → ExceptT ε (StateM σ) β}
    (h : ∀ answer, Records (g answer) (f answer) fun more result =>
      R (exchange answer :: more) result) :
    Records (ExceptT.lift (Recording.note exchange host) >>= g) (ExceptT.lift host >>= f) R := by
  refine Records.bind (P := fun events result =>
    ∃ answer, events = [exchange answer] ∧ result = .ok answer) ?_ ?_ ?_
  · intro log world
    exact ⟨_, _, (host.run world).run.2, rfl, rfl, (host.run world).run.1, rfl, rfl⟩
  · rintro events e ⟨answer, -, h⟩
    cases h
  · rintro events a ⟨answer, rfl, ⟨⟩⟩
    exact h a

end Records

end

end BlockTemplate
