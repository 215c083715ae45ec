/-
  Sources that are no pages. Whether there is a file or not makes no difference to which sources
  those are (`exists_fault_of_source_iff`). With a file the message of the fault goes on with it,
  but only if the source has been looked into: one that is too large is refused before, and its
  fault names no file (`ofSource_with_file_eq_error_iff`). Processing a page tells of its source
  what reading it does, and after that nothing (`process_eq_parse_iff`).
-/
import Frontmatter.Exposure.Process
import Frontmatter.Proofs.Exposure.Faults
import Frontmatter.Proofs.Exposure.Settings

namespace Frontmatter

/-! ## Reading a source -/

/-- The message about a source in a file, where `m` is the message without one. -/
def messageInFile (source file m : String) : String :=
  if source.utf8ByteSize ≤ maxSourceSize then m ++ "\n  in " ++ file else m

/-- A message that goes on with a file is another one. -/
theorem messageInFile_eq_append_iff {source file m : String} :
    messageInFile source file m = m ++ "\n  in " ++ file ↔ source.utf8ByteSize ≤ maxSourceSize := by
  unfold messageInFile
  split
  · next h => simp [h]
  · next h =>
    refine iff_of_false (fun heq => ?_) h
    have hlength := congrArg String.length heq
    have hwords : "\n  in ".length = 6 := rfl
    rw [String.length_append, String.length_append, hwords] at hlength
    omega

section
variable [Readers] {source : String}

theorem ofSource_of_tooLarge (h : maxSourceSize < source.utf8ByteSize) (file? : Option String) :
    Node.ofSource source file? = .error (.parse tooLargeText) := by
  rw [Node.ofSource, if_pos h]

/-- A source of the right size is read before its file matters. -/
theorem ofSource_of_fits (h : source.utf8ByteSize ≤ maxSourceSize) (file : String) :
    Node.ofSource source (some file) =
      (Node.ofSource source none).mapError (Fault.inFile file) := by
  have hfits : ¬ maxSourceSize < source.utf8ByteSize := Nat.not_lt.mpr h
  rw [Node.ofSource, Node.ofSource, if_neg hfits, if_neg hfits]
  cases Readers.page Script.Syntax.signal? source <;> rfl

theorem exists_message_of_ofSource {file? : Option String} {f : Fault}
    (h : Node.ofSource source file? = .error f) : ∃ m, f = .parse m := by
  unfold Node.ofSource at h
  split at h
  · cases h
    exact ⟨_, rfl⟩
  · split at h
    · cases h
    · cases h
      cases file? <;> exact ⟨_, rfl⟩

/-- With a file a source has the fault that it has without, told with the file or as it is. -/
theorem ofSource_with_file_eq_error_iff {file : String} {f : Fault} :
    Node.ofSource source (some file) = .error f ↔
      ∃ m, Node.ofSource source none = .error (.parse m) ∧
        f = .parse (messageInFile source file m) := by
  by_cases hfits : source.utf8ByteSize ≤ maxSourceSize
  · rw [ofSource_of_fits hfits]
    cases hread : Node.ofSource source none with
    | ok tree => simp [Except.mapError]
    | error g =>
      obtain ⟨m, rfl⟩ := exists_message_of_ofSource hread
      simp [Except.mapError, Fault.inFile, messageInFile, hfits, eq_comm]
  · have hlarge : maxSourceSize < source.utf8ByteSize := Nat.lt_of_not_le hfits
    rw [ofSource_of_tooLarge hlarge, ofSource_of_tooLarge hlarge]
    simp [messageInFile, hfits, eq_comm]

theorem exists_fault_of_source_iff {file : String} :
    (∃ f, Node.ofSource source (some file) = .error f) ↔
      ∃ f, Node.ofSource source none = .error f := by
  constructor
  · rintro ⟨f, hf⟩
    obtain ⟨m, hm, -⟩ := ofSource_with_file_eq_error_iff.mp hf
    exact ⟨_, hm⟩
  · rintro ⟨f, hf⟩
    obtain ⟨m, rfl⟩ := exists_message_of_ofSource hf
    exact ⟨_, ofSource_with_file_eq_error_iff.mpr ⟨m, hf, rfl⟩⟩

end

/-! ## Processing a source -/

/-- A page is told to be none just if its source is none, and its options have nothing against
reading it. -/
theorem process_eq_parse_iff [Readers] {source : String} {o : Options} {file? : Option String}
    {m : String} :
    process source o file? = .error (.parse m) ↔
      (∃ e, Exposer.ofOptions o = .ok e) ∧ Node.ofSource source file? = .error (.parse m) := by
  unfold process
  cases he : Exposer.ofOptions o with
  | error f =>
    have hf : f ≠ .parse m := by
      rintro rfl
      obtain ⟨name, -, -, h⟩ := Exposer.ofOptions_eq_error_iff.mp he
      cases h
    simpa [bind, Except.bind] using hf
  | ok e =>
    cases ht : Node.ofSource source file? with
    | error f => simp [bind, Except.bind]
    | ok tree =>
      have hrun : ¬ e.FailsWith ⟨tree, .ofFile file?⟩ (.parse m) :=
        not_failsWith_of_outside (Or.inr (Or.inr rfl))
      unfold Exposer.FailsWith at hrun
      simp only [bind, Except.bind]
      split
      · next f _ h =>
        rw [h] at hrun
        simpa using hrun
      · simp [pure, Except.pure]

/-- A source is a page with a file just if it is one without. Its fault is told with the file behind
the message, and so by processing, as long as the source has been looked into; one that is too large
is told to be so and nothing more. -/
theorem file_named_unless_too_large [Readers] (source file : String) (o : Options) :
    (∀ f, Node.ofSource source (some file) = .error f ↔
      ∃ m, Node.ofSource source none = .error (.parse m) ∧
        f = .parse (messageInFile source file m)) ∧
      ((∃ f, Node.ofSource source (some file) = .error f) ↔
        ∃ f, Node.ofSource source none = .error f) ∧
      (∀ text, process source o (some file) = .error (.parse text) ↔
        ∃ m, process source o none = .error (.parse m) ∧
          Node.ofSource source none = .error (.parse m) ∧ text = messageInFile source file m) ∧
      (∀ m, messageInFile source file m = m ++ "\n  in " ++ file ↔
        source.utf8ByteSize ≤ maxSourceSize) ∧
      (maxSourceSize < source.utf8ByteSize →
        ∀ file?, Node.ofSource source file? = .error (.parse tooLargeText)) := by
  refine ⟨fun _ => ofSource_with_file_eq_error_iff, exists_fault_of_source_iff, fun text => ?_,
    fun _ => messageInFile_eq_append_iff, ofSource_of_tooLarge⟩
  simp only [process_eq_parse_iff, ofSource_with_file_eq_error_iff, Fault.parse.injEq]
  constructor
  · rintro ⟨he, m, hm, htext⟩
    exact ⟨m, ⟨he, hm⟩, hm, htext⟩
  · rintro ⟨m, ⟨he, -⟩, hm, htext⟩
    exact ⟨he, m, hm, htext⟩

/-- A source of as many letters. -/
def lettersSource (n : Nat) : String := String.ofList (List.replicate n 'a')

theorem utf8ByteSize_lettersSource (n : Nat) : (lettersSource n).utf8ByteSize = n := by
  rw [lettersSource, String.utf8ByteSize_ofList]
  induction n with
  | zero => rfl
  | succ n ih => rw [List.replicate_succ, String.utf8Len_cons, ih]; rfl

theorem tooLarge_lettersSource :
    maxSourceSize < (lettersSource (maxSourceSize + 1)).utf8ByteSize := by
  rw [utf8ByteSize_lettersSource]
  exact Nat.lt_succ_self _

/-- The greatest source that is looked into has its file named, and the next one has not. -/
theorem file_named_unless_too_large_letters :
    (∀ m, messageInFile (lettersSource maxSourceSize) "post.mdx" m = m ++ "\n  in " ++ "post.mdx") ∧
      maxSourceSize < (lettersSource (maxSourceSize + 1)).utf8ByteSize ∧
      (∀ file?, Node.ofSource (lettersSource (maxSourceSize + 1)) file? =
        .error (.parse tooLargeText)) ∧
      process (lettersSource (maxSourceSize + 1)) ⟨none, [], .always .embed⟩ (some "post.mdx") =
        .error (.parse tooLargeText) := by
  obtain ⟨-, -, -, happend, -⟩ :=
    file_named_unless_too_large (lettersSource maxSourceSize) "post.mdx" ⟨none, [], .always .embed⟩
  obtain ⟨-, -, hprocess, -, hlarge⟩ :=
    file_named_unless_too_large (lettersSource (maxSourceSize + 1)) "post.mdx"
      ⟨none, [], .always .embed⟩
  have hread := hlarge tooLarge_lettersSource
  have hfits : (lettersSource maxSourceSize).utf8ByteSize ≤ maxSourceSize :=
    Nat.le_of_eq (utf8ByteSize_lettersSource _)
  have hsame : tooLargeText = messageInFile (lettersSource (maxSourceSize + 1)) "post.mdx"
      tooLargeText := (if_neg (Nat.not_le.mpr tooLarge_lettersSource)).symm
  exact ⟨fun m => (happend m).mpr hfits, tooLarge_lettersSource, hread,
    (hprocess _).mpr ⟨_, process_eq_parse_iff.mpr ⟨⟨_, rfl⟩, hread none⟩, hread none, hsame⟩⟩

/-- The fault of a source that is too large does not name the file that it comes from. -/
theorem too_large_source_is_not_named :
    Node.ofSource (lettersSource (maxSourceSize + 1)) (some "post.mdx") = .error
        (.parse "MDX source exceeds maximum size of 10485760 bytes (10 MB)") ∧
      ¬ ∃ m, Node.ofSource (lettersSource (maxSourceSize + 1)) none = .error (.parse m) ∧
        Node.ofSource (lettersSource (maxSourceSize + 1)) (some "post.mdx") =
          .error (.parse (m ++ "\n  in " ++ "post.mdx")) := by
  have htext : tooLargeText = "MDX source exceeds maximum size of 10485760 bytes (10 MB)" := by
    decide +kernel
  rw [ofSource_of_tooLarge tooLarge_lettersSource, ofSource_of_tooLarge tooLarge_lettersSource]
  refine ⟨by rw [htext], ?_⟩
  rintro ⟨m, hm, hfile⟩
  cases hm
  have hnamed : tooLargeText = tooLargeText ++ "\n  in " ++ "post.mdx" :=
    Fault.parse.inj (Except.error.inj hfile)
  rw [htext] at hnamed
  revert hnamed
  decide

end Frontmatter
