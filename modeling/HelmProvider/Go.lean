/-
# Go values as the provider reads them

`schema.ResourceData` hands the provider untyped `interface{}` values, and the provider
narrows them with type assertions. A plain assertion `v.(T)` panics when the dynamic type
is not `T`; the comma-ok form `v.(T)` with a second result reports the mismatch instead.
This module fixes the shapes those values take, the run-time panics the provider can
raise, and the lookup `k8sGetOk` through which `structure_kubeconfig.go` reads its block.

A Go call that may panic is modelled in `Except Panic`: the panic unwinds the caller, and
deferred calls that matter (the unlock of `k.lock`) are modelled where they run. The `%q`
verb, with which the provider and `net/url` quote a text in an error, closes the module.
-/

import Mathlib.Logic.Function.Basic

namespace HelmProvider

/-- A run-time panic, with the text the Go runtime prints for it. -/
structure Panic where
  msg : String
  deriving DecidableEq, Repr

/-- Results of Go calls are compared, and concrete runs decided. -/
instance decEqExcept {ε α : Type} [DecidableEq ε] [DecidableEq α] : DecidableEq (Except ε α)
  | .ok a, .ok b => decidable_of_iff (a = b) (by simp)
  | .error a, .error b => decidable_of_iff (a = b) (by simp)
  | .ok _, .error _ => isFalse nofun
  | .error _, .ok _ => isFalse nofun

@[simp] theorem pure_eq_ok {ε α : Type} {a b : α} : (pure a : Except ε α) = .ok b ↔ a = b :=
  ⟨Except.ok.inj, fun h => h ▸ rfl⟩

/-- A sequenced Go computation returned when each part returned. -/
theorem bind_eq_ok {ε α β : Type} {x : Except ε α} {f : α → Except ε β} {b : β} :
    x >>= f = .ok b ↔ ∃ a, x = .ok a ∧ f a = .ok b := by
  cases x <;> simp [bind, Except.bind]

/-- A sequenced Go computation failed where its first failing part did. -/
theorem bind_eq_error {ε α β : Type} {x : Except ε α} {f : α → Except ε β} {e : ε} :
    x >>= f = .error e ↔ x = .error e ∨ ∃ a, x = .ok a ∧ f a = .error e := by
  cases x <;> simp [bind, Except.bind]

theorem bind_ok_of_ok {ε α β : Type} {x : Except ε α} {f : α → Except ε β}
    (hx : ∃ a, x = .ok a) (hf : ∀ a, ∃ b, f a = .ok b) : ∃ b, x >>= f = .ok b := by
  obtain ⟨a, rfl⟩ := hx
  exact hf a

/-- The panic of a method call through a nil interface value. -/
def nilDereference : Panic :=
  ⟨"runtime error: invalid memory address or nil pointer dereference"⟩

/-- A Go function with an `error` result, which may also panic. -/
abbrev ErrM := ExceptT String (Except Panic)

namespace ErrM

variable {α β : Type}

/-- A call that returns, with or without an error. -/
def NoPanic (x : ErrM α) : Prop := ∃ r, x.run = .ok r

theorem run_bind_eq_ok {x : ErrM α} {f : α → ErrM β} {b : β} :
    (x >>= f).run = .ok (.ok b) ↔ ∃ a, x.run = .ok (.ok a) ∧ (f a).run = .ok (.ok b) := by
  rw [ExceptT.run_bind]
  rcases x.run with p | e | a <;> simp [bind, Except.bind, ExceptT.bindCont, pure, Except.pure]

@[simp] theorem run_lift_panic_eq_ok {x : Except Panic α} {a : α} :
    (monadLift x : ErrM α).run = .ok (.ok a) ↔ x = .ok a := by
  show Except.ok <$> x = _ ↔ _
  cases x <;> simp [Functor.map, Except.map]

@[simp] theorem run_lift_error_eq_ok {x : Except String α} {a : α} :
    (monadLift x : ErrM α).run = .ok (.ok a) ↔ x = .ok a :=
  ⟨Except.ok.inj, fun h => h ▸ rfl⟩

@[simp] theorem run_pure_eq_ok {a b : α} : (pure a : ErrM α).run = .ok (.ok b) ↔ a = b :=
  ⟨fun h => Except.ok.inj (Except.ok.inj h), fun h => h ▸ rfl⟩

@[simp] theorem run_throw_eq_ok {e : String} {a : α} :
    (throw e : ErrM α).run = .ok (.ok a) ↔ False :=
  ⟨fun h => Except.noConfusion (Except.ok.inj h), False.elim⟩

theorem run_bind_eq_error {x : ErrM α} {f : α → ErrM β} {e : String} :
    (x >>= f).run = .ok (.error e) ↔
      x.run = .ok (.error e) ∨ ∃ a, x.run = .ok (.ok a) ∧ (f a).run = .ok (.error e) := by
  rw [ExceptT.run_bind]
  rcases x.run with p | e' | a <;> simp [bind, Except.bind, ExceptT.bindCont, pure, Except.pure]

@[simp] theorem run_lift_panic_eq_error {x : Except Panic α} {e : String} :
    (monadLift x : ErrM α).run = .ok (.error e) ↔ False := by
  show Except.ok <$> x = _ ↔ _
  cases x <;> simp [Functor.map, Except.map]

@[simp] theorem run_lift_error_eq_error {x : Except String α} {e : String} :
    (monadLift x : ErrM α).run = .ok (.error e) ↔ x = .error e :=
  ⟨Except.ok.inj, fun h => h ▸ rfl⟩

@[simp] theorem run_pure_eq_error {a : α} {e : String} :
    (pure a : ErrM α).run = .ok (.error e) ↔ False :=
  ⟨fun h => Except.noConfusion (Except.ok.inj h), False.elim⟩

@[simp] theorem run_throw_eq_error {e e' : String} :
    (throw e' : ErrM α).run = .ok (.error e) ↔ e' = e :=
  ⟨fun h => Except.error.inj (Except.ok.inj h), fun h => h ▸ rfl⟩

theorem NoPanic.bind {x : ErrM α} {f : α → ErrM β} (hx : NoPanic x)
    (hf : ∀ a, x.run = .ok (.ok a) → NoPanic (f a)) : NoPanic (x >>= f) := by
  obtain ⟨r, hr⟩ := hx
  rw [NoPanic, ExceptT.run_bind, hr]
  rcases r with e | a
  · exact ⟨.error e, rfl⟩
  · exact hf a hr

theorem noPanic_pure (a : α) : NoPanic (pure a : ErrM α) := ⟨.ok a, rfl⟩

theorem noPanic_throw (e : String) : NoPanic (throw e : ErrM α) := ⟨.error e, rfl⟩

theorem noPanic_lift {x : Except Panic α} (hx : ∃ a, x = .ok a) :
    NoPanic (monadLift x : ErrM α) := by
  obtain ⟨a, rfl⟩ := hx
  exact ⟨.ok a, rfl⟩

theorem noPanic_liftError (x : Except String α) : NoPanic (monadLift x : ErrM α) := ⟨x, rfl⟩

end ErrM

/-- An `interface{}` value as `schema.ResourceData` produces it: nested blocks are lists,
a block's attributes a `map[string]interface{}`. A Go map holds each key once; the model
keeps its entries in the order a `range` loop visits them, which Go leaves unspecified. -/
inductive Value where
  | nil
  | bool (b : Bool)
  | string (s : String)
  | list (elems : List Value)
  | map (entries : List (String × Value))
  deriving Repr

namespace Value

/-- The dynamic type's name, as a failed assertion prints it. -/
def typeName : Value → String
  | .nil => "nil"
  | .bool _ => "bool"
  | .string _ => "string"
  | .list _ => "[]interface \x7b\x7d"
  | .map _ => "map[string]interface \x7b\x7d"

/-- The panic of a failed plain assertion `v.(target)`. -/
def conversionPanic (v : Value) (target : String) : Panic :=
  ⟨"interface conversion: interface \x7b\x7d is " ++ v.typeName ++ ", not " ++ target⟩

/-- `v.(bool)`. -/
def assertBool : Value → Except Panic Bool
  | .bool b => .ok b
  | v => .error (v.conversionPanic "bool")

/-- `v.(string)`. -/
def assertString : Value → Except Panic String
  | .string s => .ok s
  | v => .error (v.conversionPanic "string")

/-- `v.([]interface{})`. -/
def assertList : Value → Except Panic (List Value)
  | .list elems => .ok elems
  | v => .error (v.conversionPanic "[]interface \x7b\x7d")

/-- `v.(map[string]interface{})`. -/
def assertMap : Value → Except Panic (List (String × Value))
  | .map entries => .ok entries
  | v => .error (v.conversionPanic "map[string]interface \x7b\x7d")

/-- The comma-ok assertion `spec, ok := v.(map[string]interface{})`; a nil interface is
not a map. -/
def asMap? : Value → Option (List (String × Value))
  | .map entries => some entries
  | _ => none

theorem assertString_eq_ok {v : Value} {s : String} : v.assertString = .ok s ↔ v = string s := by
  cases v <;> simp [assertString]

theorem assertBool_eq_ok {v : Value} {b : Bool} : v.assertBool = .ok b ↔ v = bool b := by
  cases v <;> simp [assertBool]

/-- A value of dynamic type `bool` passes `v.(bool)`. -/
theorem assertBool_of_typeName {v : Value} (h : v.typeName = "bool") : ∃ b, v.assertBool = .ok b := by
  cases v <;> first | exact ⟨_, rfl⟩ | simp [typeName] at h

/-- A value of dynamic type `string` passes `v.(string)`. -/
theorem assertString_of_typeName {v : Value} (h : v.typeName = "string") :
    ∃ s, v.assertString = .ok s := by
  cases v <;> first | exact ⟨_, rfl⟩ | simp [typeName] at h

theorem assertList_eq_ok {v : Value} {elems : List Value} :
    v.assertList = .ok elems ↔ v = list elems := by
  cases v <;> simp [assertList]

@[simp] theorem assertBool_bool (b : Bool) : (bool b).assertBool = .ok b := rfl
@[simp] theorem assertString_string (s : String) : (string s).assertString = .ok s := rfl
@[simp] theorem assertList_list (elems : List Value) : (list elems).assertList = .ok elems := rfl
@[simp] theorem assertMap_map (entries : List (String × Value)) :
    (map entries).assertMap = .ok entries := rfl

end Value

/-- `m[key]` on a `map[string]interface{}`: a missing key reads as nil. -/
def mapIndex (entries : List (String × Value)) (key : String) : Value :=
  (entries.lookup key).getD .nil

/-- `xs[0]`, which panics on an empty slice. -/
def index0 : List Value → Except Panic Value
  | x :: _ => .ok x
  | [] => .error ⟨"runtime error: index out of range [0] with length 0"⟩

/-- A `schema.ResourceData` as the provider reads it: for each attribute path, the pair
`(value, ok)` that `GetOk` (or, inside the `kubernetes` block, `k8sGetOk`) returns. The
value is the attribute's zero value or default when `ok` is false. -/
structure ConfigData where
  getOk : String → Value × Bool

namespace ConfigData

/-- `d.Get(key)`: the value whether or not it is set. -/
def get (d : ConfigData) (key : String) : Value := (d.getOk key).1

/-- A configuration that sets exactly the listed attributes; every other one reads as
`(nil, false)`. -/
def ofList (entries : List (String × Value)) : ConfigData :=
  ⟨fun key => match entries.lookup key with
    | some v => (v, true)
    | none => (.nil, false)⟩

/-- Whether attribute `key` is set to a non-empty string. -/
def setNonEmpty (d : ConfigData) (key : String) : Bool :=
  match d.getOk key with
  | (.string s, true) => s ≠ ""
  | _ => false

/-- The boolean attribute `key` is set to, `dflt` when it is not set to a boolean. -/
def boolOr (d : ConfigData) (key : String) (dflt : Bool) : Bool :=
  match d.getOk key with
  | (.bool b, true) => b
  | _ => dflt

/-- The string attribute `key` is set to, `dflt` when it is not set to a string. -/
def stringOr (d : ConfigData) (key : String) (dflt : String) : String :=
  match d.getOk key with
  | (.string s, true) => s
  | _ => dflt

/-- Whether attribute `key` is set to `true`. -/
def setTrue (d : ConfigData) (key : String) : Bool := d.boolOr key false

/-- The string attribute `key` is set to; `""` when it is not set to a string. -/
def stringAt (d : ConfigData) (key : String) : String := d.stringOr key ""

theorem stringOr_of_string {d : ConfigData} {key dflt s : String}
    (h : d.getOk key = (.string s, true)) : d.stringOr key dflt = s := by
  simp [stringOr, h]

theorem setNonEmpty_eq_stringAt (d : ConfigData) (key : String) :
    d.setNonEmpty key = decide (d.stringAt key ≠ "") := by
  unfold setNonEmpty stringAt stringOr
  rcases d.getOk key with ⟨v, _ | _⟩ <;> cases v <;> rfl

end ConfigData

/-- `if v, ok := d.GetOk(key); ok { <field> = v.(T) }`: the statement both files repeat,
one attribute and one field each (`k8sGetOk` in `structure_kubeconfig.go`). -/
def overrideIfOk {σ α : Type} (d : ConfigData) (key : String) (assert : Value → Except Panic α)
    (set : σ → α → σ) (o : σ) : Except Panic σ :=
  if (d.getOk key).2 then set o <$> assert (d.getOk key).1 else pure o

section overrideIfOk

variable {σ α β : Type} {d : ConfigData} {key : String} {assert : Value → Except Panic α}
  {set : σ → α → σ} {o o' : σ}

/-- A field the statement does not write keeps its value. -/
theorem overrideIfOk_frame (h : overrideIfOk d key assert set o = .ok o') (proj : σ → β)
    (hset : ∀ o a, proj (set o a) = proj o) :
    proj o' = proj o := by
  unfold overrideIfOk at h
  split at h
  · cases hv : assert (d.getOk key).1 <;> simp [hv, Functor.map, Except.map] at h
    rw [← h, hset]
  · cases h; rfl

/-- A string statement leaves the field it writes as the string the attribute is set to,
and as it was when the attribute is unset. -/
theorem overrideIfOk_stringOr {set : σ → String → σ} (proj : σ → String)
    (h : overrideIfOk d key Value.assertString set o = .ok o') (hkeep : set o (proj o) = o) :
    o' = set o (d.stringOr key (proj o)) := by
  unfold overrideIfOk at h
  unfold ConfigData.stringOr
  rcases hkey : d.getOk key with ⟨v, _ | _⟩ <;> simp only [hkey] at h
  · cases h; cases v <;> exact hkeep.symm
  · cases v <;> simp [Value.assertString, Functor.map, Except.map] at h ⊢
    exact h.symm

/-- A boolean statement likewise. -/
theorem overrideIfOk_boolOr {set : σ → Bool → σ} (proj : σ → Bool)
    (h : overrideIfOk d key Value.assertBool set o = .ok o') (hkeep : set o (proj o) = o) :
    o' = set o (d.boolOr key (proj o)) := by
  unfold overrideIfOk at h
  unfold ConfigData.boolOr
  rcases hkey : d.getOk key with ⟨v, _ | _⟩ <;> simp only [hkey] at h
  · cases h; cases v <;> exact hkeep.symm
  · cases v <;> simp [Value.assertBool, Functor.map, Except.map] at h ⊢
    exact h.symm

/-- On a string field that starts empty: the string the attribute is set to, `""` when it
is unset. -/
theorem overrideIfOk_stringAt {set : σ → String → σ}
    (h : overrideIfOk d key Value.assertString set o = .ok o') (hempty : set o "" = o) :
    o' = set o (d.stringAt key) :=
  overrideIfOk_stringOr (fun _ => "") h hempty

/-- On a boolean field that starts false: the attribute's value, `false` when it is unset. -/
theorem overrideIfOk_setTrue {set : σ → Bool → σ}
    (h : overrideIfOk d key Value.assertBool set o = .ok o') (hfalse : set o false = o) :
    o' = set o (d.setTrue key) :=
  overrideIfOk_boolOr (fun _ => false) h hfalse

/-- The statement reads its attribute only. -/
theorem overrideIfOk_congr {d' : ConfigData} (h : d.getOk key = d'.getOk key)
    (assert : Value → Except Panic α) (set : σ → α → σ) (o : σ) :
    overrideIfOk d key assert set o = overrideIfOk d' key assert set o := by
  simp only [overrideIfOk, h]

/-- The statement returns whenever the assertion does on a set attribute. -/
theorem overrideIfOk_ok (set : σ → α → σ) (o : σ)
    (hassert : (d.getOk key).2 = true → ∃ a, assert (d.get key) = .ok a) :
    ∃ o', overrideIfOk d key assert set o = .ok o' := by
  unfold overrideIfOk
  split
  · obtain ⟨a, ha⟩ := hassert ‹_›
    exact ⟨set o a, by simp [ConfigData.get] at ha; simp [ha, Functor.map, Except.map]⟩
  · exact ⟨o, rfl⟩

end overrideIfOk

namespace Fmt

/-- The lowercase hexadecimal digit `strconv` writes for `n < 16`. -/
def hexDigit (n : Nat) : Char :=
  if n < 10 then Char.ofNat (48 + n) else Char.ofNat (87 + n)

/-- `strconv.Quote`'s escape of one character. Characters outside ASCII are written as
they are, as `Quote` writes every printable one. -/
def quoteChar (c : Char) : String :=
  if c = '"' then "\\\"" else if c = '\\' then "\\\\"
  else if c = '\n' then "\\n" else if c = '\r' then "\\r" else if c = '\t' then "\\t"
  else if c.toNat = 7 then "\\a" else if c.toNat = 8 then "\\b"
  else if c.toNat = 11 then "\\v" else if c.toNat = 12 then "\\f"
  else if c.toNat < 32 ∨ c.toNat = 127 then
    "\\x" ++ (hexDigit (c.toNat / 16)).toString ++ (hexDigit (c.toNat % 16)).toString
  else c.toString

/-- The `%q` verb on a string, `strconv.Quote`. -/
def quote (s : String) : String :=
  "\"" ++ String.join (s.toList.map quoteChar) ++ "\""

example : quote "dial tcp: \"x\"\n" = "\"dial tcp: \\\"x\\\"\\n\"" := by decide

end Fmt

end HelmProvider
