import ScriptLint.Proofs.Run.Attempt
import ScriptLint.Proofs.Text.Malformed
import ScriptLint.Proofs.Tree.Lookup

set_option autoImplicit false

/-!
The contents of a source.

A source is decoded strictly if its file is well formed and lossily if it is not, and nothing of
that shows in the contents: the two readers find the same units in any bytes, and they differ only
where there is something malformed. So the contents are a function of the bytes. The bytes can be
told from them if the file is well formed, and its ASCII bytes can be told in any case.
-/

namespace ScriptLint

/-- **What a source holds.** The contents of a source are its file, decoded lossily. The file
falls into characters and malformed stretches in one way, and its contents are these characters,
with U+FFFD for each malformed stretch. The strict reader is satisfied with a file if and only if
some text is written that way, and then it gives that text. The contents are written with the bytes of
the file if and only if the file is well formed. And in any case they have the same ASCII bytes,
in the same order. -/
theorem Source.read_decodes_file (t : Tree) (path : Text) (bytes : Bytes)
    (readable : t.read path = .ok bytes) :
    let contents := Utf8.lossy bytes
    (Source.read t path).result = .ok ⟨path, contents⟩
      ∧ (∃ us, (∀ us', Utf8.FallsInto bytes us' ↔ us' = us)
          ∧ contents = us.map fun u => u.getD Utf8.replacement)
      ∧ (∀ s, Utf8.strict? bytes = some s ↔ Utf8.encode s = bytes)
      ∧ (Utf8.encode contents = bytes ↔ ∃ s, Utf8.encode s = bytes)
      ∧ (Utf8.encode contents).filter (fun b => b.toNat < 0x80)
          = bytes.filter fun b => b.toNat < 0x80 := by
  intro contents
  refine ⟨Source.read_result_of_ok readable, ⟨Utf8.units bytes, fun us' => Utf8.fallsInto_iff, rfl⟩,
    fun s => Utf8.strict?_eq_some_iff, ⟨fun h => ⟨contents, h⟩, ?_⟩, Utf8.filter_encode_lossy bytes⟩
  rintro ⟨s, rfl⟩
  exact congrArg Utf8.encode (Utf8.lossy_encode s)

/-- A byte-order mark, a mark, an overlong form with a backslash behind it, a surrogate, and the
beginning of a character that a line feed cuts short. -/
theorem Source.read_decodes_file_of_broken :
    let bytes : Bytes :=
      [0xEF, 0xBB, 0xBF, 0x22, 0xC0, 0x5C, 0xED, 0xA0, 0x80, 0xF0, 0x9F, 0x98, 0x0A]
    let a : Name := ⟨Utf8.encode ['a'], by decide⟩
    let t : Tree := ⟨[(⟨.above 0, [a]⟩, .file bytes .data)], by decide⟩
    let contents : Text :=
      ['\uFEFF', '"', '\uFFFD', '\\', '\uFFFD', '\uFFFD', '\uFFFD', '\uFFFD', '\n']
    t.read a.val = .ok bytes
      ∧ (Source.read t ['a']).result = .ok ⟨['a'], contents⟩
      ∧ (¬ ∃ s, Utf8.encode s = bytes)
      ∧ (Utf8.encode contents).filter (fun b => b.toNat < 0x80) = [0x22, 0x5C, 0x0A] := by
  intro bytes a t contents
  have readable : t.read a.val = .ok bytes := Tree.read_of_isEntryName (by decide) rfl
  have hcontents : Utf8.lossy bytes = contents := by decide
  have hread := Source.read_decodes_file t ['a'] bytes readable
  simp only [hcontents] at hread
  obtain ⟨hresult, -, -, hbytes, hascii⟩ := hread
  refine ⟨readable, hresult, fun hwritten => ?_, hascii⟩
  exact absurd (hbytes.2 hwritten) (by decide)

end ScriptLint
