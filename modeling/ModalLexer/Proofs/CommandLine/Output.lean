import ModalLexer.Proofs.CommandLine.Agreement

/-!
# What `run` writes

With an output, `run` changes at most the file that is named, and this only if nothing goes wrong
(`run_writes_output`). It goes on to write behind everything else that can fail: the source cannot
be read (`FileSystem.Unreadable`), or it cannot be parsed, or there is no place for the file
(`FileSystem.Refuses`). The first of these decides the line that is printed. What is written
otherwise is what `run` prints without an output, also where the source itself is written over.
-/

namespace ModalLexer.CommandLine

variable {fs : FileSystem} {path out line : String} {source : Text} {p : Assignment.Program}

/-! ## Sources that cannot be read -/

/-- The source at a path cannot be read, and this is the line that says why. -/
inductive FileSystem.Unreadable (fs : FileSystem) (path : String) : String → Prop
  /-- The input is not in UTF-8. -/
  | input (hpath : path = "-") (h : String.fromUTF8? fs.input = none) :
    fs.Unreadable path "Error reading stdin: stream did not contain valid UTF-8"
  /-- There is no such file. -/
  | missing (hpath : path ≠ "-") (h : fs.hasPath path = false) :
    fs.Unreadable path s!"Error: file not found: {path}"
  /-- The path leads to a directory. -/
  | directory (hpath : path ≠ "-") (h : fs.content path = .error .isDirectory) :
    fs.Unreadable path s!"Error reading {path}: Is a directory (os error 21)"
  /-- The file is not in UTF-8. -/
  | encoding {bytes : ByteArray} (hpath : path ≠ "-") (h : fs.content path = .ok bytes)
    (hbytes : String.fromUTF8? bytes = none) :
    fs.Unreadable path s!"Error reading {path}: stream did not contain valid UTF-8"

/-- Bytes that hold a string are its bytes. -/
theorem eq_toUTF8_of_fromUTF8? {bytes : ByteArray} {s : String}
    (h : String.fromUTF8? bytes = some s) : bytes = (String.ofList s.toList).toUTF8 := by
  unfold String.fromUTF8? at h
  split at h
  · obtain rfl := Option.some.inj h
    rw [String.ofList_toList]
    rfl
  · exact absurd h (by simp)

/-- A source can be read, or a line says why it cannot. -/
theorem FileSystem.supplies_or_unreadable (fs : FileSystem) (path : String) :
    (∃ source, fs.Supplies path source) ∨ ∃ line, fs.Unreadable path line := by
  unfold Supplies
  by_cases hpath : path = "-"
  · simp only [if_pos hpath]
    cases hutf8 : String.fromUTF8? fs.input with
    | none => exact .inr ⟨_, .input hpath hutf8⟩
    | some s => exact .inl ⟨s.toList, eq_toUTF8_of_fromUTF8? hutf8⟩
  · simp only [if_neg hpath]
    cases hexists : fs.hasPath path with
    | false => exact .inr ⟨_, .missing hpath hexists⟩
    | true =>
      rcases FileSystem.hasPath_iff.1 hexists with hdirectory | ⟨bytes, hbytes⟩
      · exact .inr ⟨_, .directory hpath hdirectory⟩
      · cases hutf8 : String.fromUTF8? bytes with
        | none => exact .inr ⟨_, .encoding hpath hbytes hutf8⟩
        | some s => exact .inl ⟨s.toList, eq_toUTF8_of_fromUTF8? hutf8 ▸ hbytes⟩

/-- The report of an error in reading, in one piece. -/
theorem errorReading_eq (path : String) {message report : String} (h : ": " ++ message = report) :
    s!"Error reading {path}: {message}" = s!"Error reading {path}" ++ report := by
  rw [← h]
  exact String.append_assoc

/-- A source that cannot be read is reported, and nothing is changed. -/
theorem FileSystem.Unreadable.readSource_eq (h : fs.Unreadable path line) :
    (readSource FileSystem.host path).run fs = (.error line, fs) := by
  cases h with
  | input hpath h =>
    subst hpath
    rw [readSource_input, decode, h]
    rfl
  | missing hpath h =>
    unfold readSource
    rw [if_neg hpath]
    simp only [FileSystem.host, bind_pure_comp, map_pure, StateT.run_bind, StateT.run_map,
      StateT.run_get, pure_bind, h]
    rfl
  | directory hpath h =>
    rw [readSource_file hpath (FileSystem.hasPath_iff.2 (.inl h)), h]
    exact congrArg (fun line => (Except.error line, fs)) (errorReading_eq path (by decide))
  | @encoding bytes hpath h hbytes =>
    have hdecode : (Except.ok bytes >>= decode) =
        .error (.other "stream did not contain valid UTF-8") := by
      show decode bytes = _
      rw [decode, hbytes]
    rw [readSource_file hpath (FileSystem.hasPath_iff.2 (.inr ⟨bytes, h⟩)), h, hdecode]
    exact congrArg (fun line => (Except.error line, fs)) (errorReading_eq path (by decide))

/-- So is a program that cannot be read. -/
theorem FileSystem.Unreadable.readProgram_eq (h : fs.Unreadable path line) :
    (readProgram FileSystem.host path).run fs = (.error line, fs) := by
  unfold readProgram
  rw [StateT.run_bind, h.readSource_eq]
  rfl

/-! ## Running with an output -/

/-- A write that fails leaves the file system as it is. -/
theorem FileSystem.writeFile_run (fs : FileSystem) (path : String) (content : ByteArray) :
    (FileSystem.host.writeFile path content).run fs =
      match fs.write path content with
      | .error e => (.error e, fs)
      | .ok fs' => (.ok (), fs') := by
  have haction : (FileSystem.host.writeFile path content).run fs =
      StateT.run (match fs.write path content with
        | .error e => return .error e
        | .ok fs => do
          set fs
          return .ok ()) fs := rfl
  rw [haction]
  cases fs.write path content <;> rfl

/-- Where the program cannot be read, `run` ends with the line that says why. -/
theorem execute_output_of_error
    (h : (readProgram FileSystem.host path).run fs = (.error line, fs)) :
    (execute FileSystem.host (.run path (some out))).run fs = (.failure line, fs) := by
  unfold execute
  rw [StateT.run_bind, h]
  rfl

/-- Where it can, its rendering is written. -/
theorem execute_output_of_ok (h : (readProgram FileSystem.host path).run fs = (.ok p, fs)) :
    (execute FileSystem.host (.run path (some out))).run fs =
      match fs.write out (rendering p).toUTF8 with
      | .error e => (.failure s!"Error writing {out}: {e.message}", fs)
      | .ok fs' => ({ errors := s!"Wrote: {out}\n" }, fs') := by
  unfold execute
  rw [StateT.run_bind, h]
  show StateT.run (FileSystem.host.writeFile out (rendering p).toUTF8 >>= _) fs = _
  rw [StateT.run_bind, FileSystem.writeFile_run]
  cases fs.write out (rendering p).toUTF8 <;> rfl

/-- With an output, `run` ends in one of four ways. The source cannot be read, or it is no program,
or the output cannot be opened: then the first of these that is so is reported in one line, and
nothing is changed. Otherwise the output then holds what `run` prints without one, every other file
is as it was before, and a line says so. Path and output can be the same. -/
theorem run_writes_output (fs : FileSystem) {args plainArgs : List String}
    (hargs : readCommand args = .ok (.run path (some out)))
    (hplain : readCommand plainArgs = .ok (.run path none)) :
    ((∃ line, fs.Unreadable path line) ∨ ∃ source, fs.Supplies path source) ∧
      ((∃ e, fs.Refuses out e) ∨ ∃ place, fs.Opens out place) ∧
      (∀ line, fs.Unreadable path line → fs.exec args = (⟨1, "", line ++ "\n"⟩, fs)) ∧
      ∀ source, fs.Supplies path source →
        (∀ e, Assignment.parse source = .error e →
          fs.exec args = (⟨1, "", s!"{path}: {Assignment.errorMessage e}\n"⟩, fs)) ∧
        ∀ p, Assignment.parse source = .ok p →
          (∀ e, fs.Refuses out e →
            fs.exec args = (⟨1, "", s!"Error writing {out}: {e.message}\n"⟩, fs)) ∧
          ∀ place, fs.Opens out place → ∃ text fs',
            fs.exec plainArgs = (⟨0, text, ""⟩, fs) ∧
            fs.exec args = (⟨0, "", s!"Wrote: {out}\n"⟩, fs') ∧
            fs'.content out = .ok text.toUTF8 ∧ fs.ChangedAt fs' place text.toUTF8 := by
  have hexec : fs.exec args = (execute FileSystem.host (.run path (some out))).run fs := by
    rw [FileSystem.exec, execArguments, hargs]
  have hexecPlain : fs.exec plainArgs = (execute FileSystem.host (.run path none)).run fs := by
    rw [FileSystem.exec, execArguments, hplain]
  rw [hexec, hexecPlain]
  refine ⟨fs.supplies_or_unreadable path |>.symm, fs.opens_or_refuses out |>.symm,
    fun line h => execute_output_of_error h.readProgram_eq, fun source h => ⟨fun e he => ?_,
      fun p hp => ?_⟩⟩
  -- The source is read, so what is left to fail is the parser, and behind it the write.
  · have hread := readProgram_eq h
    rw [he] at hread
    rw [execute_output_of_error hread]
    rfl
  · have hread := readProgram_eq h
    rw [hp] at hread
    rw [execute_output_of_ok hread, execute_run_eq h, hp]
    refine ⟨fun e hrefuses => ?_, fun place hopens => ?_⟩
    · rw [hrefuses.write_eq]
      rfl
    · rw [hopens.write_eq]
      exact ⟨rendering p, _, rfl, rfl, hopens.content_put _, hopens.changedAt_put _⟩

/-- A source is written over by its own rendering. To a path without a name, nothing is written. -/
theorem run_writes_output_over_source : ∃ (fs fs' : FileSystem) (source : Text),
    fs.Supplies "s" source ∧ fs.Opens "s" ["s"] ∧
      readCommand ["run", "s", "-o", "s"] = .ok (.run "s" (some "s")) ∧
      readCommand ["run", "s"] = .ok (.run "s" none) ∧
      fs.exec ["run", "s", "-o", "s"] = (⟨0, "", "Wrote: s\n"⟩, fs') ∧
      fs'.content "s" = .ok "1) The value of a is 1.\n2) The value of b is unset.\n".toUTF8 ∧
      fs.exec ["run", "s", "-o", ""] =
        (⟨1, "", "Error writing : No such file or directory (os error 2)\n"⟩, fs) := by
  let source : Text := ['a', '(', '1', ')', 'b']
  let fs : FileSystem := { files := [(["s"], (String.ofList source).toUTF8)] }
  let p : Assignment.Program := ⟨[⟨['a'], some 1⟩, ⟨['b'], none⟩]⟩
  have hresolve : fs.resolve "s" = .ok ["s"] := FileSystem.resolve_s rfl rfl
  have hsource : fs.Supplies "s" source := by
    unfold FileSystem.Supplies FileSystem.content
    rw [if_neg (by decide), hresolve]
    rfl
  have hopens : fs.Opens "s" ["s"] := ⟨by decide +kernel, hresolve, by simp [FileSystem.node?, fs]⟩
  have hp : Assignment.parse source = .ok p := rfl
  have hargs : readCommand ["run", "s", "-o", "s"] = .ok (.run "s" (some "s")) := rfl
  have hargs' : readCommand ["run", "s", "-o", ""] = .ok (.run "s" (some "")) := rfl
  have hplain : readCommand ["run", "s"] = .ok (.run "s" none) := rfl
  obtain ⟨-, -, -, hrun⟩ := run_writes_output fs hargs hplain
  obtain ⟨-, -, -, hrun'⟩ := run_writes_output fs hargs' hplain
  obtain ⟨text, fs', htext, hwrote, hcontent, -⟩ := ((hrun source hsource).2 p hp).2 ["s"] hopens
  have hempty := ((hrun' source hsource).2 p hp).1 .notFound (.stops (.empty rfl))
  have hprinted : fs.exec ["run", "s"] = (⟨0, rendering p, ""⟩, fs) := by
    rw [FileSystem.exec, execArguments, hplain]
    exact (execute_run_eq hsource).trans (by rw [hp])
  have hreports := congrArg (fun result => result.1.output) (htext.symm.trans hprinted)
  obtain rfl : text = rendering p := hreports
  have hrendering : rendering p = "1) The value of a is 1.\n2) The value of b is unset.\n" := by
    decide
  rw [hrendering] at hcontent
  exact ⟨fs, fs', source, hsource, hopens, hargs, hplain, hwrote, hcontent, hempty⟩

end ModalLexer.CommandLine
