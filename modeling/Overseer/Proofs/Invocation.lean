import Overseer.Invocation
import Overseer.Proofs.Text.Utf8

/-! ## The arguments of a child

The name of the input goes to the child as text. A name that is UTF-8 gets there byte for byte; in
any other name something is replaced, so the child is asked for another file. -/

namespace Overseer.Invocation

/-- The flags are given as they are, and one argument stands behind them. -/
theorem args_eq_args_iff {i j : Invocation} (hflags : j.flags = i.flags) :
    j.args = i.args ↔ Utf8.decode j.input = Utf8.decode i.input := by
  unfold args
  rw [hflags, List.append_cancel_left_eq, List.singleton_inj]

/-- The last argument has the bytes of the input path exactly if the path is UTF-8, and then no
    other such path gives the same arguments. No other path at all does exactly if the argument has
    no U+FFFD in it. -/
theorem args_faithful_iff (i : Invocation) :
    (∃ last, i.args = i.flags ++ [last] ∧ (Utf8.encode last = i.input ↔ Utf8.Valid i.input)) ∧
      (Utf8.Valid i.input → ∀ j : Invocation, Utf8.Valid j.input → j.flags = i.flags →
        j.args = i.args → j.input = i.input) ∧
      ((∀ j : Invocation, j.flags = i.flags → j.args = i.args → j.input = i.input) ↔
        Utf8.replacement ∉ Utf8.decode i.input) := by
  refine ⟨⟨Utf8.decode i.input, rfl, Utf8.valid_iff.symm⟩, ?_, ?_⟩
  · intro hi j hj hflags hargs
    rw [args_eq_args_iff hflags] at hargs
    calc j.input = Utf8.encode (Utf8.decode j.input) := (Utf8.valid_iff.1 hj).symm
      _ = Utf8.encode (Utf8.decode i.input) := by rw [hargs]
      _ = i.input := Utf8.valid_iff.1 hi
  · rw [← Utf8.decode_determines_iff]
    constructor
    · intro hunique bytes hbytes
      exact hunique { i with input := bytes } rfl (congrArg (i.flags ++ [·]) hbytes)
    · intro hunique j hflags hargs
      exact hunique j.input ((args_eq_args_iff hflags).1 hargs)

/-- A file whose name is not ASCII, compiled for 32 bits. -/
theorem args_faithful_iff_accented :
    let i : Invocation :=
      ⟨"slllvm".toList, ["-m32".toList], [0xC3, 0xA9, 0x2E, 0x62, 0x63], 20000⟩
    let j : Invocation := { i with input := [0x65, 0x2E, 0x62, 0x63] }
    (Utf8.Valid i.input ∧ Utf8.Valid j.input ∧ j.flags = i.flags) ∧
      (∃ last, i.args = ["-m32".toList] ++ [last] ∧ Utf8.encode last = i.input) ∧
      j.args ≠ i.args := by
  intro i j
  have hi : Utf8.Valid i.input := ⟨"é.bc".toList, by decide⟩
  have hj : Utf8.Valid j.input := ⟨"e.bc".toList, by decide⟩
  obtain ⟨⟨last, hargs, hbytes⟩, hdistinct, -⟩ := args_faithful_iff i
  refine ⟨⟨hi, hj, rfl⟩, ⟨last, hargs, hbytes.2 hi⟩, fun heq => ?_⟩
  exact absurd (hdistinct hi j hj rfl heq) (by decide)

/-- Two bytes that begin no sequence name two files, and the child is asked for a third. -/
theorem not_args_faithful_stray :
    ¬ (∀ i : Invocation, ∃ last, i.args = i.flags ++ [last] ∧ Utf8.encode last = i.input) ∧
      ¬ ∀ i j : Invocation, j.flags = i.flags → j.input ≠ i.input → j.args ≠ i.args := by
  constructor
  · intro hexact
    obtain ⟨last, hlast, hbytes⟩ := hexact ⟨"slllvm".toList, [], [0xFF], 20000⟩
    have hdecode : Utf8.decode [0xFF] = last := List.singleton_inj.1 hlast
    rw [← hdecode] at hbytes
    exact absurd hbytes (by decide)
  · intro hdistinct
    exact hdistinct ⟨"slllvm".toList, [], [0xFF], 20000⟩ ⟨"slllvm".toList, [], [0xFE], 20000⟩
      rfl (by decide) (by decide)

end Overseer.Invocation
