import AgentCtl.Errors
import AgentCtl.Library.OrderedDict

set_option relaxedAutoImplicit false
set_option autoImplicit false

/-!
# JSON values as Python holds them

The values `json.loads` yields, with the accesses the source makes on them. Every access that
Python checks at run time (`v[k]`, `for x in v`, `x in {…}`) is a function that may
raise, with the class and the text of the built-in exception.

## Main definitions

* `PyFloat` — a float, held as its `repr`.
* `Json`, `Dict` — JSON values and JSON objects.
* `Dict.get`, `Json.item`, `Json.elements` — `d.get(k, default)`, `v[k]`, `for x in v`.
* `Dict.Same` — equality of objects up to the order of their keys.
* `Json.truthy` — `bool(v)`.
* `Json.Same` — equality of values up to the order of object keys, as `==` has it.

## Main results

* `Json.Same.refl` — every value equals itself.
-/

open AgentCtl

namespace PyFloat

/-- A nonempty string of decimal digits. -/
def isDigits (s : Str) : Bool := !s.isEmpty && s.all fun c => 48 ≤ c.val && c.val ≤ 57

/-- The exponent of a float literal: a sign and digits. -/
def isExponent : Str → Bool
  | c :: ds => (c = 43 || c = 45) && isDigits ds
  | [] => false

/-- The texts `repr` gives for floats: `NaN` and the infinities as `json.dumps` spells them, and
decimal literals with a fraction or an exponent. -/
def isRepr (s : Str) : Bool :=
  s = ("NaN" : Str) || s = ("Infinity" : Str) || s = ("-Infinity" : Str) ||
    (let body := if s.head? = some 45 then s.tail else s
     let me := Str.partition 101 body
     let ft := Str.partition 46 me.1
     isDigits ft.1 && (!ft.2.1 || isDigits ft.2.2) && (!me.2.1 || isExponent me.2.2) &&
       (ft.2.1 || me.2.1))

end PyFloat

/-- A Python float. Different floats have different `repr`s, so a float is held as its `repr`. -/
structure PyFloat where
  repr : Str
  wf : PyFloat.isRepr repr = true
  deriving DecidableEq

/-- Is the integer too large for a float? The bound is halfway between the largest float and the
power of two above it. -/
@[irreducible] def floatOverflows (n : ℤ) : Bool := 2 ^ 1024 - 2 ^ 970 ≤ n.natAbs

/-- A JSON value; objects keep the order of their keys. -/
inductive Json where
  | null
  | bool (b : Bool)
  | int (n : ℤ)
  | float (x : PyFloat)
  | str (s : Str)
  | arr (xs : List Json)
  | obj (kvs : List (Str × Json))
  deriving Inhabited

/-- A JSON object. -/
abbrev Dict := OrderedDict Str Json

/-- `d.get(k, default)`. -/
def Dict.get (d : Dict) (k : Str) (default : Json := .null) : Json := d.getD k default

@[simp] lemma Dict.get_nil (k : Str) (default : Json) : Dict.get [] k default = default := rfl

@[simp] lemma Dict.get_cons (k' k : Str) (v default : Json) (d : Dict) :
    Dict.get ((k', v) :: d) k default = if k' = k then v else Dict.get d k default := by
  unfold Dict.get OrderedDict.getD
  by_cases h : k' = k <;> simp [h]

/-- An access after an assignment. -/
lemma Dict.get_insert (d : Dict) (k k' : Str) (v default : Json) :
    Dict.get (OrderedDict.insert d k v) k' default = if k = k' then v else d.get k' default := by
  unfold Dict.get OrderedDict.getD
  rw [OrderedDict.get?_insert]
  by_cases h : k = k' <;> simp [h]

/-- Two objects with the same entries, in whatever order. -/
def Dict.Same (d e : Dict) : Prop := ∀ k, d.get? k = e.get? k

/-- An access sees the entries of an object only. -/
lemma Dict.Same.get {d e : Dict} (h : Dict.Same d e) (k : Str) (default : Json) :
    Dict.get d k default = Dict.get e k default := by
  unfold Dict.get OrderedDict.getD
  rw [h k]

namespace Json

/-- `type(v).__name__`. -/
def typeName : Json → Str
  | null => "NoneType"
  | bool _ => "bool"
  | int _ => "int"
  | float _ => "float"
  | str _ => "str"
  | arr _ => "list"
  | obj _ => "dict"

/-- `bool(v)`. -/
def truthy : Json → Bool
  | null => false
  | bool b => b
  | int n => n ≠ 0
  | float x => x.repr ≠ ("0.0" : Str) && x.repr ≠ ("-0.0" : Str)
  | str s => !s.isEmpty
  | arr xs => !xs.isEmpty
  | obj kvs => !kvs.isEmpty

/-- `v == "…"`. -/
def eqStr (v : Json) (s : Str) : Bool :=
  match v with
  | str t => t = s
  | _ => false

@[simp] lemma eqStr_str (t s : Str) : (str t).eqStr s = decide (t = s) := rfl

/-- `v or w`. -/
def orElse (v w : Json) : Json := if v.truthy then v else w

/-- A string stands for itself where the default is the empty one. -/
@[simp] lemma orElse_empty (s : Str) : (str s).orElse (str "") = str s := by
  cases s <;> rfl

/-- `isinstance(v, str)`. -/
def isStr : Json → Bool
  | str _ => true
  | _ => false

/-- The `AttributeError` of a missing method. -/
def noAttribute (v : Json) (name : Str) : Exc :=
  ⟨.attributeError, "'" ++ v.typeName ++ "' object has no attribute '" ++ name ++ "'", none⟩

/-- `v[k]` for a string key. -/
def item (v : Json) (k : Str) : Except Exc Json :=
  match v with
  | obj kvs =>
    match OrderedDict.get? kvs k with
    | some x => .ok x
    | none => .error ⟨.keyError, "'" ++ k ++ "'", none⟩
  | arr _ => .error ⟨.typeError, "list indices must be integers or slices, not str", none⟩
  | str _ => .error ⟨.typeError, "string indices must be integers, not 'str'", none⟩
  | v => .error ⟨.typeError, "'" ++ v.typeName ++ "' object is not subscriptable", none⟩

/-- The items of `for x in v`: the elements of a list, the characters of a string, the keys of an
object. -/
def elements (v : Json) : Except Exc (List Json) :=
  match v with
  | arr xs => .ok xs
  | str s => .ok (s.map fun c => str [c])
  | obj kvs => .ok (kvs.map fun p => str p.1)
  | v => .error ⟨.typeError, "'" ++ v.typeName ++ "' object is not iterable", none⟩

/-- `hash(v)`, as a set membership test computes it: lists and objects have none. -/
def hashable (v : Json) : Except Exc Unit :=
  match v with
  | arr _ | obj _ => .error ⟨.typeError, "unhashable type: '" ++ v.typeName ++ "'", none⟩
  | _ => .ok ()

/-- `"".join(vs)`. -/
def joinFrom (i : ℕ) : List Json → Except Exc Str
  | [] => .ok []
  | str s :: vs => do return s ++ (← joinFrom (i + 1) vs)
  | v :: _ => .error ⟨.typeError, "sequence item " ++ Str.ofString (toString i) ++
      ": expected str instance, " ++ v.typeName ++ " found", none⟩

/-- `"".join(vs)`. -/
def join (vs : List Json) : Except Exc Str := joinFrom 0 vs

/-! ## Equality of values -/

/-- `v == w` for values that hold the same numbers: lists agree item by item, objects key by
key in whatever order. -/
inductive Same : Json → Json → Prop
  | null : Same .null .null
  | bool (b : Bool) : Same (.bool b) (.bool b)
  | int (n : ℤ) : Same (.int n) (.int n)
  | float (x : PyFloat) : Same (.float x) (.float x)
  | str (s : Str) : Same (.str s) (.str s)
  | arr {xs ys : List Json} (h : List.Forall₂ Same xs ys) : Same (.arr xs) (.arr ys)
  | obj {d e : List (Str × Json)}
      (h : ∀ k, Option.Rel Same (OrderedDict.get? d k) (OrderedDict.get? e k)) :
      Same (.obj d) (.obj e)

mutual

/-- Every value equals itself. -/
lemma Same.refl : ∀ v : Json, Same v v
  | null => .null
  | bool b => .bool b
  | int n => .int n
  | float x => .float x
  | str s => .str s
  | arr xs => .arr (same_items_refl xs)
  | obj kvs => .obj (same_entries_refl kvs)

/-- Lists equal themselves, item by item. -/
lemma same_items_refl : ∀ xs : List Json, List.Forall₂ Same xs xs
  | [] => .nil
  | v :: vs => .cons (Same.refl v) (same_items_refl vs)

/-- Objects equal themselves, key by key. -/
lemma same_entries_refl : ∀ (kvs : List (Str × Json)) (k : Str),
    Option.Rel Same (OrderedDict.get? kvs k) (OrderedDict.get? kvs k)
  | [], _ => .none
  | (k', v) :: kvs, k => by
    by_cases h : k' = k
    · simpa [h] using Option.Rel.some (Same.refl v)
    · simpa [h] using same_entries_refl kvs k

end

/-- Equal strings are the same. -/
lemma Same.str_inj {s t : Str} (h : Same (.str s) (.str t)) : s = t := by
  cases h
  rfl

/-- Equal integers are the same. -/
lemma Same.int_inj {m n : ℤ} (h : Same (.int m) (.int n)) : m = n := by
  cases h
  rfl

/-- Equal floats are the same. -/
lemma Same.float_inj {x y : PyFloat} (h : Same (.float x) (.float y)) : x = y := by
  cases h
  rfl

/-- Equal lists agree item by item. -/
lemma Same.items {xs ys : List Json} (h : Same (.arr xs) (.arr ys)) : List.Forall₂ Same xs ys := by
  cases h with
  | arr h => exact h

/-- Equal objects have the same strings in them. -/
lemma Same.eqStr_get {d e : Dict} (h : Same (.obj d) (.obj e)) (k s : Str) :
    (d.get k).eqStr s = (e.get k).eqStr s := by
  cases h with
  | obj h =>
    have hk := h k
    unfold Dict.get OrderedDict.getD
    generalize OrderedDict.get? d k = v at hk ⊢
    generalize OrderedDict.get? e k = w at hk ⊢
    cases hk with
    | none => rfl
    | some hvw => cases hvw <;> rfl

/-- Equality of objects looks at their entries only. -/
lemma Same.congr {d d' e e' : Dict} (h : Dict.Same d e) (h' : Dict.Same d' e')
    (hs : Same (.obj e) (.obj e')) : Same (.obj d) (.obj d') := by
  cases hs with
  | obj hs =>
    refine .obj fun k => ?_
    rw [h k, h' k]
    exact hs k

/-- Objects that begin with equal values under the same key. -/
lemma Same.cons (k : Str) {v v' : Json} {d d' : Dict} (hv : Same v v')
    (hd : Same (.obj d) (.obj d')) : Same (.obj ((k, v) :: d)) (.obj ((k, v') :: d')) := by
  cases hd with
  | obj hd =>
    refine .obj fun k' => ?_
    by_cases h : k = k'
    · simpa [h] using Option.Rel.some hv
    · simpa [h] using hd k'

end Json
