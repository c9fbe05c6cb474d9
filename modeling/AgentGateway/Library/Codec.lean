import Mathlib.Data.List.Basic

/-! Decode loops over a buffer as `tokio_util`'s codecs run them, and incremental decoders,
whose items do not depend on how the input is cut. -/

namespace Library.Codec

variable {δ β ι ε : Type*}

structure Call (δ β ι ε : Type*) where
  call : δ → List β → Except ε (Option ι) × δ × List β
  shrinks : ∀ {d buf x}, (call d buf).1 = .ok (some x) → (call d buf).2.2.length < buf.length

lemma Call.length_lt {c : Call δ β ι ε} {d d' : δ} {buf buf' : List β} {x : ι}
    (h : c.call d buf = (.ok (some x), d', buf')) : buf'.length < buf.length := by
  have hs := @Call.shrinks δ β ι ε c d buf x (by rw [h])
  rwa [h] at hs

-- the linter does not see the use of `h` in the termination proof
set_option linter.unusedVariables false in
def loop (c : Call δ β ι ε) (d : δ) (buf : List β) (items : List ι) : Except ε Unit × δ × List β × List ι :=
  match h : c.call d buf with
  | (.ok (some x), d', buf') => loop c d' buf' (items ++ [x])
  | (.ok none, d', buf') => (.ok (), d', buf', items)
  | (.error e, d', buf') => (.error e, d', buf', items)
termination_by buf.length
decreasing_by exact c.length_lt h

section Loop

variable {c : Call δ β ι ε} {d d' : δ} {buf buf' : List β}

lemma loop_of_item {x : ι} (h : c.call d buf = (.ok (some x), d', buf')) (items : List ι) :
    loop c d buf items = loop c d' buf' (items ++ [x]) := by
  rw [loop]
  split <;> rename_i hd <;> rw [h] at hd <;> cases hd
  rfl

lemma loop_of_wait (h : c.call d buf = (.ok none, d', buf')) (items : List ι) :
    loop c d buf items = (.ok (), d', buf', items) := by
  rw [loop]
  split <;> rename_i hd <;> rw [h] at hd <;> cases hd
  rfl

lemma loop_of_error {e : ε} (h : c.call d buf = (.error e, d', buf')) (items : List ι) :
    loop c d buf items = (.error e, d', buf', items) := by
  rw [loop]
  split <;> rename_i hd <;> rw [h] at hd <;> cases hd
  rfl

lemma loop_congr {d₁ : δ} {buf₁ : List β} (h : c.call d buf = c.call d₁ buf₁) (items : List ι) :
    loop c d buf items = loop c d₁ buf₁ items := by
  rcases hc : c.call d₁ buf₁ with ⟨(e | (_ | x)), d'', buf''⟩
  · rw [loop_of_error (h.trans hc), loop_of_error hc]
  · rw [loop_of_wait (h.trans hc), loop_of_wait hc]
  · rw [loop_of_item (h.trans hc), loop_of_item hc]

end Loop

structure Incremental (c : Call δ β ι ε) : Prop where
  item : ∀ {d buf x d' buf'}, c.call d buf = (.ok (some x), d', buf') →
    ∀ extra, c.call d (buf ++ extra) = (.ok (some x), d', buf' ++ extra)
  wait : ∀ {d buf d' buf'}, c.call d buf = (.ok none, d', buf') →
    ∀ extra, c.call d (buf ++ extra) = c.call d' (buf' ++ extra)
  error : ∀ {d buf e d' buf'}, c.call d buf = (.error e, d', buf') →
    ∀ extra, c.call d (buf ++ extra) = (.error e, d', buf' ++ extra)

namespace Incremental

variable {c : Call δ β ι ε} (hc : Incremental c)
include hc

/-- The loop over a buffer with more input after it: the loop over the buffer, continued over the
rest of it and the new input, or the same error with the new input left behind it. -/
theorem loop_append (extra : List β) :
    ∀ (d : δ) (buf : List β) (items : List ι), loop c d (buf ++ extra) items =
      match loop c d buf items with
      | (.ok (), d', buf', items') => loop c d' (buf' ++ extra) items'
      | (.error e, d', buf', items') => (.error e, d', buf' ++ extra, items') := by
  intro d buf
  -- the induction is on the length of the buffer, which each item shortens
  induction hn : buf.length using Nat.strongRecOn generalizing d buf with
  | _ n ih =>
    intro items
    rcases hcall : c.call d buf with ⟨(e | (_ | x)), d', buf'⟩
    · rw [loop_of_error (hc.error hcall extra), loop_of_error hcall]
    · rw [loop_congr (hc.wait hcall extra), loop_of_wait hcall]
    · have hlt : buf'.length < n := hn ▸ c.length_lt hcall
      rw [loop_of_item (hc.item hcall extra), loop_of_item hcall, ih _ hlt d' buf' rfl]

theorem loop_append_of_ok {d d' : δ} {buf buf' : List β} {items items' : List ι}
    (h : loop c d buf items = (.ok (), d', buf', items')) (extra : List β) :
    loop c d (buf ++ extra) items = loop c d' (buf' ++ extra) items' := by
  rw [hc.loop_append extra, h]

theorem loop_append_of_error {d d' : δ} {buf buf' : List β} {items items' : List ι} {e : ε}
    (h : loop c d buf items = (.error e, d', buf', items')) (extra : List β) :
    loop c d (buf ++ extra) items = (.error e, d', buf' ++ extra, items') := by
  rw [hc.loop_append extra, h]

theorem loop_idem {d d' : δ} {buf buf' : List β} {items items' : List ι}
    (h : loop c d buf items = (.ok (), d', buf', items')) : loop c d' buf' items' = (.ok (), d', buf', items') := by
  have happ := hc.loop_append_of_ok h []
  rw [List.append_nil, List.append_nil, h] at happ
  exact happ.symm

end Incremental

end Library.Codec
