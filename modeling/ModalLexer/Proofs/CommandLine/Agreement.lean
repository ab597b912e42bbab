import ModalLexer.CommandLine.Command
import ModalLexer.Proofs.Assignment.Rendering
import ModalLexer.Proofs.CommandLine.Places

/-!
# `run` and `check` agree

A source comes from the input or from a file, and is run or checked. `run_and_check_agree` says what
comes of all four combinations: the program alone decides, the path is only shown, and no file is
changed.

Both commands read the source first. What is read of a text that the file system supplies is the
text (`readSource_eq`), so what both of them go on with is the program of this text, or the report
of its error (`readProgram_eq`).
-/

namespace ModalLexer.CommandLine

variable {fs : FileSystem} {path : String} {source : Text}

/-! ## Sources -/

/-- What the arguments lead to on a file system: the report, and the file system behind it. -/
def FileSystem.exec (fs : FileSystem) (args : List String) : Report × FileSystem :=
  (execArguments FileSystem.host args).run fs

/-- A text stands in UTF-8 on the input, if the path is a hyphen, or in a file that can be read. -/
def FileSystem.Supplies (fs : FileSystem) (path : String) (source : Text) : Prop :=
  if path = "-" then fs.input = (String.ofList source).toUTF8
  else fs.content path = .ok (String.ofList source).toUTF8

/-- The text that the bytes of a text hold is this text. -/
theorem decode_toUTF8 (t : Text) : decode (String.ofList t).toUTF8 = .ok t := by
  have hutf8 : String.fromUTF8? (String.ofList t).toUTF8 = some (String.ofList t) := by
    simp only [String.fromUTF8?, String.toUTF8_eq_toByteArray,
      dif_pos (String.ofList t).isValidUTF8]
    rfl
  rw [decode, hutf8]
  exact congrArg Except.ok String.toList_ofList

/-- Reading from the input changes nothing. -/
theorem readSource_input (fs : FileSystem) : (readSource FileSystem.host "-").run fs =
    ((decode fs.input).mapError fun e => s!"Error reading stdin: {e.message}", fs) :=
  rfl

/-- Reading a file that exists changes nothing, either. -/
theorem readSource_file (hpath : path ≠ "-") (hexists : fs.hasPath path = true) :
    (readSource FileSystem.host path).run fs =
      ((fs.content path >>= decode).mapError fun e =>
        s!"Error reading {path}: {e.message}", fs) := by
  unfold readSource
  rw [if_neg hpath]
  simp only [FileSystem.host, bind_pure_comp, map_pure, StateT.run_bind, StateT.run_map,
    StateT.run_get, pure_bind, hexists]
  rfl

/-- What is read of a text that is supplied is this text, and nothing is changed. -/
theorem readSource_eq (h : fs.Supplies path source) :
    (readSource FileSystem.host path).run fs = (.ok source, fs) := by
  unfold FileSystem.Supplies at h
  split at h
  · next hpath =>
    subst hpath
    rw [readSource_input, h, decode_toUTF8]
    rfl
  · next hpath =>
    have hdecode : (Except.ok (String.ofList source).toUTF8 >>= decode) = .ok source :=
      decode_toUTF8 source
    rw [readSource_file hpath (FileSystem.hasPath_iff.2 (.inr ⟨_, h⟩)), h, hdecode]
    rfl

/-- So the program that is read is the one that the text stands for. -/
theorem readProgram_eq (h : fs.Supplies path source) :
    (readProgram FileSystem.host path).run fs =
      ((Assignment.parse source).mapError fun e =>
        s!"{path}: {Assignment.errorMessage e}", fs) := by
  unfold readProgram
  rw [StateT.run_bind, readSource_eq h]
  rfl

/-! ## Commands -/

/-- What `run` reports is decided by the text and the path. -/
theorem execute_run_eq (h : fs.Supplies path source) :
    (execute FileSystem.host (.run path none)).run fs =
      (match Assignment.parse source with
        | .ok p => { output := rendering p }
        | .error e => .failure s!"{path}: {Assignment.errorMessage e}", fs) := by
  unfold execute
  rw [StateT.run_bind, readProgram_eq h]
  cases Assignment.parse source <;> rfl

/-- So is what `check` reports. -/
theorem execute_check_eq (h : fs.Supplies path source) :
    (execute FileSystem.host (.check path)).run fs =
      (match Assignment.parse source with
        | .ok p => { errors := s!"OK: {path} ({p.declared.length} variables)\n" }
        | .error e => .failure s!"{path}: {Assignment.errorMessage e}", fs) := by
  unfold execute
  rw [StateT.run_bind, readProgram_eq h]
  cases Assignment.parse source <;> rfl

/-- The commands agree on every source, from the input or from a file, whatever the arguments are
that ask for them. If the source is read as a program, `run` prints its rendering and a line feed,
and `check` counts its variables: as many as `run` prints lines, unless there are none. If it is not
read, both of them fail with the same line, which shows the path and the report of the error.
Nothing else is printed, and no file is changed. -/
theorem run_and_check_agree {runArgs checkArgs : List String} (h : fs.Supplies path source)
    (hrun : readCommand runArgs = .ok (.run path none))
    (hcheck : readCommand checkArgs = .ok (.check path)) :
    (∀ p, Assignment.parse source = .ok p →
        fs.exec runArgs = (⟨0, p.render ++ "\n", ""⟩, fs) ∧
        fs.exec checkArgs = (⟨0, "", s!"OK: {path} ({p.declared.length} variables)\n"⟩, fs) ∧
        (p.declared ≠ [] → (p.render ++ "\n").toList.count '\n' = p.declared.length)) ∧
      ∀ e, Assignment.parse source = .error e →
        fs.exec runArgs = (⟨1, "", s!"{path}: {Assignment.errorMessage e}\n"⟩, fs) ∧
        fs.exec checkArgs = (⟨1, "", s!"{path}: {Assignment.errorMessage e}\n"⟩, fs) := by
  have hexecRun : fs.exec runArgs = (execute FileSystem.host (.run path none)).run fs := by
    rw [FileSystem.exec, execArguments, hrun]
  have hexecCheck : fs.exec checkArgs = (execute FileSystem.host (.check path)).run fs := by
    rw [FileSystem.exec, execArguments, hcheck]
  rw [hexecRun, hexecCheck, execute_run_eq h, execute_check_eq h]
  refine ⟨fun p hp => ?_, fun e he => ?_⟩
  · rw [hp]
    exact ⟨rfl, rfl, fun hne => p.count_lineFeed_render hne (Assignment.lineFeed_not_mem_name hp)⟩
  · rw [he]
    exact ⟨rfl, rfl⟩

/-- Every path can be asked for, also one that looks like an option. -/
example (path : String) : readCommand ["run", "--", path] = .ok (.run path none) ∧
    readCommand ["check", "--", path] = .ok (.check path) :=
  ⟨rfl, rfl⟩

/-- A source with two variables stands on the input and in a file. -/
theorem run_and_check_agree_two : ∃ (fs : FileSystem) (source : Text),
    fs.Supplies "-" source ∧ fs.Supplies "s" source ∧
      fs.exec ["run", "-"] =
        (⟨0, "1) The value of a is 1.\n2) The value of b is unset.\n", ""⟩, fs) ∧
      fs.exec ["check", "--", "-"] = (⟨0, "", "OK: - (2 variables)\n"⟩, fs) ∧
      fs.exec ["run", "s"] =
        (⟨0, "1) The value of a is 1.\n2) The value of b is unset.\n", ""⟩, fs) ∧
      fs.exec ["check", "s"] = (⟨0, "", "OK: s (2 variables)\n"⟩, fs) := by
  let source : Text := ['a', '(', '1', ')', 'b']
  let bytes : ByteArray := (String.ofList source).toUTF8
  let fs : FileSystem := { files := [(["s"], bytes)], input := bytes }
  let p : Assignment.Program := ⟨[⟨['a'], some 1⟩, ⟨['b'], none⟩]⟩
  have hinput : fs.Supplies "-" source := rfl
  have hfile : fs.Supplies "s" source := by
    unfold FileSystem.Supplies FileSystem.content
    rw [if_neg (by decide), FileSystem.resolve_s rfl rfl]
    rfl
  have hp : Assignment.parse source = .ok p := rfl
  have hrender : p.render ++ "\n" = "1) The value of a is 1.\n2) The value of b is unset.\n" := by
    decide
  have hrunInput : readCommand ["run", "-"] = .ok (.run "-" none) := rfl
  have hcheckInput : readCommand ["check", "--", "-"] = .ok (.check "-") := rfl
  have hrunFile : readCommand ["run", "s"] = .ok (.run "s" none) := rfl
  have hcheckFile : readCommand ["check", "s"] = .ok (.check "s") := rfl
  obtain ⟨hrun, hcheck, -⟩ := (run_and_check_agree hinput hrunInput hcheckInput).1 p hp
  obtain ⟨hrun', hcheck', -⟩ := (run_and_check_agree hfile hrunFile hcheckFile).1 p hp
  have hokInput : "OK: " ++ "-" ++ " (" ++ toString p.declared.length ++ " variables)\n" =
      "OK: - (2 variables)\n" := by
    decide
  have hokFile : "OK: " ++ "s" ++ " (" ++ toString p.declared.length ++ " variables)\n" =
      "OK: s (2 variables)\n" := by
    decide
  rw [hrender] at hrun hrun'
  exact ⟨fs, source, hinput, hfile, hrun,
    hcheck.trans (congrArg (fun errors => (Report.mk 0 "" errors, fs)) hokInput), hrun',
    hcheck'.trans (congrArg (fun errors => (Report.mk 0 "" errors, fs)) hokFile)⟩

end ModalLexer.CommandLine
