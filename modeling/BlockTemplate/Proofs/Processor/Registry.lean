import BlockTemplate.Proofs.Processor.BuiltinCall
import BlockTemplate.Proofs.Syntax.PrintedBlock
import BlockTemplate.Proofs.Text.LowerCase

/-!
# The registry of functions

A session is a sequence of operations on one processor. Registering a function adds an entry to the
registry or fails; nothing else touches it, and no entry ever changes. So a registry is the list of
the registrations that succeeded, and each of them is called by the block of its key.

## Implementation notes

Processing a template may change what the host keeps, but not the processor. So the processor that
a session leaves is a fold over the operations, and only the texts it gives out are answers of the
host (`outputs`).

Main statement: `registryLaws`.
-/

namespace BlockTemplate.Processor

open Calendar (Moment)

variable {m : Type → Type}

/-! ### Sessions -/

/-- What a user does with a processor. -/
inductive Operation (m : Type → Type) where
  | addFunction (name : String) (f : HostFunction m)
  | addResolver (r : Resolver m)
  | setStrict (strict : Bool)
  | process (source : String)

/-- The processor after an operation. One that fails leaves it as it is. -/
def perform (p : Processor m) : Operation m → Processor m
  | .addFunction name f =>
    match p.addFunction name f with
    | .ok q => q
    | .error _ => p
  | .addResolver r => p.addResolver r
  | .setStrict strict => p.setStrict strict
  | .process _ => p

/-- The processor after a session. -/
def after (p : Processor m) (ops : List (Operation m)) : Processor m := ops.foldl perform p

/-- The entry that an operation adds to the registry. -/
def registration? (p : Processor m) : Operation m → Option (String × HostFunction m)
  | .addFunction name f => (p.addFunction name f).toOption.map fun _ => (Text.lowerString name, f)
  | .addResolver _ | .setStrict _ | .process _ => none

/-- The registrations of a session that succeed, in their order. -/
def registrations (p : Processor m) : List (Operation m) → List (String × HostFunction m)
  | [] => []
  | op :: ops => (p.registration? op).toList ++ (p.perform op).registrations ops

@[simp] theorem after_nil (p : Processor m) : p.after [] = p := rfl

@[simp] theorem after_cons (p : Processor m) (op : Operation m) (ops : List (Operation m)) :
    p.after (op :: ops) = (p.perform op).after ops := rfl

theorem after_append (p : Processor m) (ops more : List (Operation m)) :
    p.after (ops ++ more) = (p.after ops).after more := List.foldl_append

section

variable [Monad m]

/-- What comes of the template that an operation processes. -/
def output? (p : Processor m) : Operation m → m (Option (Except (Located TemplateError) String))
  | .process source => do
    let result ← p.process source
    pure (some result)
  | .addFunction _ _ | .addResolver _ | .setStrict _ => pure none

/-- What comes of the templates that a session processes, in their order. -/
def outputs (p : Processor m) :
    List (Operation m) → m (List (Except (Located TemplateError) String))
  | [] => pure []
  | op :: ops => do
    let result ← p.output? op
    let results ← (p.perform op).outputs ops
    pure (result.toList ++ results)

theorem outputs_append [LawfulMonad m] (p : Processor m) (ops more : List (Operation m)) :
    p.outputs (ops ++ more) = (do
      let first ← p.outputs ops
      let second ← (p.after ops).outputs more
      pure (first ++ second)) := by
  induction ops generalizing p with
  | nil => simp [outputs]
  | cons op ops ih =>
      simp only [List.cons_append, outputs, ih, after_cons, bind_assoc, pure_bind,
        List.append_assoc]

end

/-! ### Registration -/

section

variable {p q : Processor m} {name key : String} {f : HostFunction m} {e : RegistrationError}

theorem registered?_eq_none_iff :
    p.registered? key = none ↔ ∀ entry ∈ p.functions, entry.1 ≠ key := by
  simp [registered?]

theorem addFunction_eq_ok_iff : p.addFunction name f = .ok q ↔
    Function.isValidName (Text.lowerString name).toList = true ∧
      p.registered? (Text.lowerString name) = none ∧
      q = { p with functions := p.functions ++ [(Text.lowerString name, f)] } := by
  rw [addFunction]
  cases hvalid : Function.isValidName (Text.lowerString name).toList with
  | false => simp
  | true =>
      cases hregistered : p.registered? (Text.lowerString name) with
      | some g => simp
      | none => simp [eq_comm]

theorem perform_of_addFunction_eq_error (h : p.addFunction name f = .error e) :
    p.perform (.addFunction name f) = p := by
  rw [perform, h]

end

/-- An operation adds its registration to the registry, and nothing else does. -/
theorem perform_eq (p : Processor m) (op : Operation m) : ∃ resolvers strict,
    p.perform op = ⟨{ p.settings with strict := strict }, resolvers,
      p.functions ++ (p.registration? op).toList, p.present⟩ := by
  cases op with
  | addFunction name f =>
      refine ⟨p.resolvers, p.settings.strict, ?_⟩
      cases hadd : p.addFunction name f with
      | error e => simp [perform, registration?, hadd, Except.toOption]
      | ok q =>
          obtain ⟨-, -, rfl⟩ := addFunction_eq_ok_iff.1 hadd
          simp [perform, registration?, hadd, Except.toOption]
  | addResolver r =>
      exact ⟨p.resolvers ++ [r], p.settings.strict, by simp [perform, addResolver, registration?]⟩
  | setStrict strict =>
      exact ⟨p.resolvers, strict, by simp [perform, setStrict, registration?]⟩
  | process source =>
      exact ⟨p.resolvers, p.settings.strict, by simp [perform, registration?]⟩

/-- A session adds its registrations behind the entries that are there. -/
theorem after_eq (p : Processor m) (ops : List (Operation m)) : ∃ resolvers strict,
    p.after ops = ⟨{ p.settings with strict := strict }, resolvers,
      p.functions ++ p.registrations ops, p.present⟩ := by
  induction ops generalizing p with
  | nil => exact ⟨p.resolvers, p.settings.strict, by simp [registrations]⟩
  | cons op ops ih =>
      obtain ⟨resolvers, strict, hstep⟩ := p.perform_eq op
      obtain ⟨resolvers', strict', hrun⟩ := ih (p.perform op)
      refine ⟨resolvers', strict', ?_⟩
      rw [after_cons, hrun, hstep, registrations, hstep, List.append_assoc]

/-! ### Keys -/

/-- The keys of a registry: valid names in lower case, no two alike. -/
structure WellKeyed (p : Processor m) : Prop where
  lower : ∀ entry ∈ p.functions, Text.lowerString entry.1 = entry.1
  valid : ∀ entry ∈ p.functions, Function.isValidName entry.1.toList = true
  nodup : (p.functions.map Prod.fst).Nodup

theorem wellKeyed_new (settings : Settings) (present : Moment) :
    (new settings present : Processor m).WellKeyed :=
  ⟨nofun, nofun, List.nodup_nil⟩

namespace WellKeyed

variable {p : Processor m}

theorem addFunction {q : Processor m} {name : String} {f : HostFunction m} (h : p.WellKeyed)
    (hadd : p.addFunction name f = .ok q) : q.WellKeyed := by
  obtain ⟨hvalid, hfree, rfl⟩ := addFunction_eq_ok_iff.1 hadd
  constructor
  case lower =>
    exact List.forall_mem_append.2 ⟨h.lower, by simp [Text.lowerString_lowerString]⟩
  case valid =>
    exact List.forall_mem_append.2 ⟨h.valid, by simpa using hvalid⟩
  case nodup =>
    have hnew : Text.lowerString name ∉ p.functions.map Prod.fst := by
      intro hmem
      obtain ⟨entry, hentry, hkey⟩ := List.mem_map.1 hmem
      exact registered?_eq_none_iff.1 hfree entry hentry hkey
    simpa using h.nodup.concat hnew

theorem perform (h : p.WellKeyed) (op : Operation m) : (p.perform op).WellKeyed := by
  cases op with
  | addFunction name f =>
      rw [Processor.perform]
      split
      · next hadd => exact h.addFunction hadd
      · exact h
  | addResolver r => exact ⟨h.lower, h.valid, h.nodup⟩
  | setStrict strict => exact ⟨h.lower, h.valid, h.nodup⟩
  | process source => exact h

theorem after (h : p.WellKeyed) (ops : List (Operation m)) : (p.after ops).WellKeyed := by
  induction ops generalizing p with
  | nil => exact h
  | cons op ops ih => exact ih (h.perform op)

/-- An entry is found under its key. -/
theorem registered?_of_mem (h : p.WellKeyed) {key : String} {f : HostFunction m}
    (hmem : (key, f) ∈ p.functions) : p.registered? key = some f := by
  obtain ⟨entry, hfind⟩ : ∃ entry, p.functions.find? (fun entry => entry.1 = key) = some entry := by
    apply Option.isSome_iff_exists.1
    rw [List.find?_isSome]
    exact ⟨(key, f), hmem, decide_eq_true rfl⟩
  have hkey : entry.1 = key := by simpa using List.find?_some hfind
  obtain rfl : entry = (key, f) :=
    List.inj_on_of_nodup_map h.nodup (List.mem_of_find?_eq_some hfind) hmem hkey
  rw [registered?, hfind, Option.map_some]

end WellKeyed

/-! ### Lookups -/

theorem isName_of_isValidName {name : String} (h : Function.isValidName name.toList = true) :
    IsName name := by
  cases hname : name.toList with
  | nil => simp [hname, Function.isValidName] at h
  | cons c cs =>
      simp only [hname, Function.isValidName, Bool.and_eq_true, List.all_eq_true] at h
      obtain ⟨hstart, hmore⟩ := h
      exact ⟨c, cs, hname, hstart, fun x hx => by grind [isNameChar]⟩

variable [Monad m]

/-- A name stands for the function that is registered under its key, else for the built-in one. -/
theorem function?_eq (p : Processor m) (name : String) :
    p.function? name = (p.registered? (nameKey name)).or
      ((Builtin.ofName? (nameKey name)).map (Builtin.onHost p.present)) := by
  have hfind : Builtin.find? (nameKey name) = Builtin.ofName? (nameKey name) := by
    rw [Builtin.find?, nameKey, Text.lowerString, String.toList_ofList, Text.lower_lower]
  simp only [function?, hfind]
  cases p.registered? (nameKey name) with
  | some f => rfl
  | none => rfl

/-! ### Calls -/

/-- A name with an empty list of arguments, between standard markers. -/
def callSource (name : String) : String := "\x7b" ++ name ++ "()\x7d"

theorem toList_callSource (name : String) :
    (callSource name).toList = Markers.standard.delimiters.opening ++
      (Block.spell ⟨false, .call name [], []⟩ ++ Markers.standard.delimiters.closing) := by
  rw [Markers.opening_standard, Markers.closing_standard]
  simp [callSource, Block.spell, Expr.spell, Expr.spellArgs, Expr.spellFilters]

theorem parse_callSource {markers : Markers}
    (hmarkers : markers.delimiters = Markers.standard.delimiters) {name : String}
    (h : IsName name) :
    Template.parse markers (callSource name) =
      .ok [⟨.block ⟨false, .call name [], []⟩, ⟨0, Text.byteLength (callSource name).toList⟩⟩] := by
  have hspellable : Block.Spellable ⟨false, .call name [], []⟩ := by
    simpa [Block.Spellable, Block.chain] using Expr.Spellable.call h (List.forall_mem_nil _)
  exact parse_spelled hmarkers Markers.neutral_standard hspellable (toList_callSource name)

section

variable [LawfulMonad m] {p : Processor m} {name : String} {f : HostFunction m}

theorem run_evalBlock_call (hf : p.function? name = some f) :
    (p.evalBlock ⟨false, .call name [], []⟩).run = (do
      match ← f .null [] p.settings.formatting with
      | .ok value => pure (.ok (value.text p.settings.formatting))
      | .error cause => pure (.error (.functionFailed name cause))) := by
  simp only [evalBlock, evalHead, evalArgs, evalFilters, call, resolveFunction, hf, bind_assoc,
    pure_bind, Bool.false_and, Bool.false_eq_true, if_false, bind_pure_comp, ExceptT.run_bind,
    ExceptT.run_lift, ExceptT.run_map, bind_map_left]
  refine bind_congr fun answer => ?_
  cases answer with
  | ok value => simp [Except.map]
  | error cause => simp

/-- The block of a name calls the function of the name with nothing, and does nothing else. -/
theorem process_callSource (hp : p.settings.markers.delimiters = Markers.standard.delimiters)
    (hname : IsName name) (hf : p.function? name = some f) :
    p.process (callSource name) = (do
      match ← f .null [] p.settings.formatting with
      | .ok value => pure (.ok (String.ofList (value.text p.settings.formatting)))
      | .error cause => pure (.error ⟨.resolution (.functionFailed name cause),
          ⟨0, Text.byteLength (callSource name).toList⟩⟩)) := by
  rw [process_block (parse_callSource hp hname), run_evalBlock_call hf, bind_assoc]
  refine bind_congr fun answer => ?_
  cases answer with
  | ok value => simp
  | error cause => simp

end

/-! ### Sessions that start from a fresh processor -/

/-- What a session does to the registry of the processor that it starts from. -/
structure RegistryLaws (start : Processor m) (ops : List (Operation m)) : Prop where
  /-- The entries are the registrations that succeeded. -/
  functions : (start.after ops).functions = start.registrations ops
  keys : (start.after ops).WellKeyed
  /-- A name may be registered if it is valid and has not been registered in any case. -/
  accepts : ∀ name f, (∃ q, (start.after ops).addFunction name f = .ok q) ↔
    Function.isValidName (Text.lowerString name).toList = true ∧
      ∀ entry ∈ start.registrations ops, entry.1 ≠ Text.lowerString name
  /-- A registration that fails is not seen by anything that follows. -/
  refused : ∀ name f e, (start.after ops).addFunction name f = .error e → ∀ later,
    (∀ other, (start.after (ops ++ .addFunction name f :: later)).function? other =
      (start.after (ops ++ later)).function? other) ∧
    start.outputs (ops ++ .addFunction name f :: later) = start.outputs (ops ++ later)
  /-- A name stands for the first function registered under its key, else for a built-in one. -/
  lookup : ∀ name, (start.after ops).function? name =
    (((start.registrations ops).find? fun entry => entry.1 = nameKey name).map (·.2)).or
      ((Builtin.ofName? (nameKey name)).map (Builtin.onHost start.present))
  /-- The block of a registered key calls its function with nothing, and does nothing else. -/
  calls : start.settings.markers.delimiters = Markers.standard.delimiters →
    ∀ key f, (key, f) ∈ start.registrations ops →
      (start.after ops).process (callSource key) = (do
        match ← f .null [] start.settings.formatting with
        | .ok value => pure (.ok (String.ofList (value.text start.settings.formatting)))
        | .error cause => pure (.error ⟨.resolution (.functionFailed key cause),
            ⟨0, Text.byteLength (callSource key).toList⟩⟩))

/-- The registry of a processor is the list of the registrations that succeeded, whatever else is
done with the processor. -/
theorem registryLaws [LawfulMonad m] (settings : Settings) (present : Moment)
    (ops : List (Operation m)) : RegistryLaws (new settings present : Processor m) ops := by
  generalize hstart : (new settings present : Processor m) = start
  obtain ⟨resolvers, strict, hafter⟩ := start.after_eq ops
  have hfunctions : (start.after ops).functions = start.registrations ops := by
    rw [hafter, ← hstart]
    rfl
  have hpresent : (start.after ops).present = start.present := by rw [hafter]
  have hkeys : (start.after ops).WellKeyed := by
    rw [← hstart]
    exact (wellKeyed_new settings present).after ops
  constructor
  case functions => exact hfunctions
  case keys => exact hkeys
  case accepts =>
    intro name f
    simp only [addFunction_eq_ok_iff, registered?_eq_none_iff, hfunctions]
    exact ⟨fun ⟨_, hvalid, hfree, _⟩ => ⟨hvalid, hfree⟩,
      fun ⟨hvalid, hfree⟩ => ⟨_, hvalid, hfree, rfl⟩⟩
  case refused =>
    intro name f e hadd later
    have hsame : (start.after ops).perform (.addFunction name f) = start.after ops :=
      perform_of_addFunction_eq_error hadd
    refine ⟨fun other => ?_, ?_⟩
    · rw [after_append, after_append, after_cons, hsame]
    · simp [outputs_append, outputs, output?, hsame]
  case lookup =>
    intro name
    rw [function?_eq, registered?, hfunctions, hpresent]
  case calls =>
    intro hmarkers key f hmem
    rw [← hfunctions] at hmem
    have hname : IsName key := isName_of_isValidName (hkeys.valid _ hmem)
    have hf : (start.after ops).function? key = some f := by
      rw [function?_eq, nameKey_eq hname, hkeys.lower _ hmem, hkeys.registered?_of_mem hmem,
        Option.some_or]
    have hsettings : (start.after ops).settings.markers = start.settings.markers ∧
        (start.after ops).settings.formatting = start.settings.formatting := by
      rw [hafter]
      exact ⟨rfl, rfl⟩
    rw [process_callSource (hsettings.1 ▸ hmarkers) hname hf, hsettings.2]

/-- A name that is taken in another case, a name that is looked up between blanks, and a host that
counts the calls. -/
theorem registryLaws_of_two_cases :
    let f : HostFunction (StateM Nat) := fun _ args _ =>
      modifyGet fun n => (.ok (.integer (.ofNat (n + args.length))), n + 1)
    let g : HostFunction (StateM Nat) := fun input _ _ => pure (.ok input)
    let ops : List (Operation (StateM Nat)) :=
      [.addFunction "Trim" f, .setStrict true, .addFunction "TRIM" g]
    let start : Processor (StateM Nat) := new .standard default
    start.registrations ops = [("trim", f)] ∧
      (start.after ops).function? " tRIM\n" = some f ∧
      (start.after ops).function? "JOIN" = some (Builtin.join.onHost default) ∧
      ((start.after ops).process "\x7btrim()\x7d").run 7 = (.ok "7", 8) := by
  intro f g ops start
  have laws : RegistryLaws start ops := registryLaws .standard default ops
  have htitle : Text.lowerString "Trim" = "trim" := by decide +kernel
  have hcapitals : Text.lowerString "TRIM" = "trim" := by decide +kernel
  have hadd : start.addFunction "Trim" f = .ok ⟨.standard, [], [("trim", f)], default⟩ := by
    rw [addFunction_eq_ok_iff, htitle]
    exact ⟨by decide +kernel, rfl, rfl⟩
  have hrefuse : addFunction ⟨{ Settings.standard with strict := true }, [], [("trim", f)], default⟩
      "TRIM" g = .error (.functionAlreadyRegistered "trim") := by
    rw [addFunction, hcapitals]
    rfl
  have hregistrations : start.registrations ops = [("trim", f)] := by
    simp [ops, registrations, registration?, perform, hadd, hrefuse, htitle, Except.toOption,
      setStrict]
  have hcall := laws.calls rfl "trim" f (by simp [hregistrations])
  refine ⟨hregistrations, ?_, ?_, ?_⟩
  · have hkey : nameKey " tRIM\n" = "trim" := by decide +kernel
    rw [laws.lookup, hregistrations, hkey]
    rfl
  · have hkey : nameKey "JOIN" = "join" := by decide +kernel
    have hbuiltin : Builtin.ofName? "join" = some .join := Builtin.ofName?_name .join
    rw [laws.lookup, hregistrations, hkey, hbuiltin]
    rfl
  · have hsource : callSource "trim" = "\x7btrim()\x7d" := by decide +kernel
    have htext : String.ofList ((Value.integer 7).text start.settings.formatting) = "7" := by
      decide +kernel
    rw [← hsource, hcall, ← htext]
    rfl

end BlockTemplate.Processor
