/-
What saving a report file does.

It creates the directories that are missing and then replaces the file, or it
stops on the way with a fault of a file.  From the moment it has opened the file
nothing of the old content is left, and a fault later on leaves a part of the
report in it.
-/
import SimReport.Proofs.ReportFile.Writer

namespace SimReport

/-- A fault of a file, told by the system or met by the table writer. -/
def Cause.IsFault (cause : Cause) : Prop := ∃ e, cause = .io e ∨ cause = .csv e

theorem Failure.kind_of_fault {f : Failure} (h : f.cause.IsFault) : f.kind ≠ .configuration := by
  obtain ⟨during, cause⟩ := f
  obtain ⟨e, rfl | rfl⟩ := h
  · exact FailureKind.noConfusion
  · exact FailureKind.noConfusion

/-- What is left of an attempt to write the content that failed: the files as they were, or less
than the content in what the path leads to. -/
def FileSystem.FallsShort (fs : FileSystem) (p : Path) (content : Bytes) (left : FileSystem) :
    Prop :=
  left = fs ∨ ∃ count, count < content.length ∧ fs.Overwrites p (content.take count) left

theorem FileSystem.FallsShort.file_of_ne {fs left : FileSystem} {p : Path} {content : Bytes}
    (h : fs.FallsShort p content left) {loc : Location} {id : Nat}
    (hid : fs.get? loc = some (.file id)) (hother : fs.status p ≠ .ok (.file id)) :
    left.file id = fs.file id := by
  rcases h with rfl | ⟨count, -, hover⟩
  · rfl
  · exact hover.file_of_ne hid hother

namespace ReportFile

/-- What can be going on when the report file of benchmarks cannot be written. -/
def activities (ids : List Text) (directory file : Path) : List Activity :=
  .createDirectories directory :: .create file :: .flush :: ids.map .writeRow

theorem Meets.mem_activities {results : Results} {room : Nat} {activity : Activity}
    (h : Meets results room activity) (directory file : Path) :
    activity ∈ activities (results.rows.map Row.id) directory file := by
  rw [activities, List.map_map]
  cases h with
  | @row before after row hrows =>
    have hmem : Activity.writeRow row.id ∈ results.rows.map (.writeRow ∘ Row.id) :=
      List.mem_map_of_mem (hrows ▸ List.mem_append_right before List.mem_cons_self)
    exact List.mem_cons_of_mem _ (List.mem_cons_of_mem _ (List.mem_cons_of_mem _ hmem))
  | flush => exact List.mem_cons_of_mem _ (List.mem_cons_of_mem _ List.mem_cons_self)

theorem isFault_causeOf (activity : Activity) (e : IoError) : (causeOf activity e).IsFault := by
  rw [causeOf]
  split
  · exact ⟨e, Or.inl rfl⟩
  · exact ⟨e, Or.inr rfl⟩

/-- All that saving can do.  The directories stay when the file cannot be written. -/
theorem save_cases (results : Results) (directory file : Path) (fs : FileSystem) :
    ∃ places, fs.Creates directory.ancestors places ∧
      ((∃ stored, save results directory file fs = (stored, .ok ()) ∧
          (fs.putDirectories places).Overwrites file (text results).toBytes stored) ∨
        ∃ left activity cause,
          save results directory file fs = (left, .error ⟨[activity], cause⟩) ∧
          (fs.putDirectories places).FallsShort file (text results).toBytes left ∧
          activity ∈ activities (results.rows.map Row.id) directory file ∧ cause.IsFault) := by
  obtain ⟨places, hcreates, hmade⟩ := fs.makeDirectories_creates directory
  refine ⟨places, hcreates, ?_⟩
  rw [save]
  split
  · next made e heq =>
    rw [heq] at hmade
    dsimp only at hmade
    subst hmade
    exact Or.inr ⟨_, _, _, rfl, Or.inl rfl, List.mem_cons_self, e, Or.inl rfl⟩
  · next made heq =>
    rw [heq] at hmade
    dsimp only at hmade
    subst hmade
    split
    · next e _ =>
      exact Or.inr ⟨_, _, _, rfl, Or.inl rfl, List.mem_cons_of_mem _ List.mem_cons_self, e,
        Or.inr rfl⟩
    · next opened handle hopen =>
      obtain ⟨hempty, hoverwrites⟩ := FileSystem.overwrites_of_openEmpty hopen
      rcases store_cases .filling results hempty with ⟨hfits, hstore⟩ |
        ⟨limit, activity, hlimit, hmeets, hstore⟩
      · rw [Text.byteLength_eq_length_toBytes] at hfits
        exact Or.inl ⟨_, hstore, hoverwrites _ hfits⟩
      · have hfront : FileSystem.Fits (opened.limit? handle)
            ((text results).toBytes.take limit.room).length := by
          rintro other hother
          rw [hlimit] at hother
          cases hother
          exact List.length_take_le _ _
        have hroom := hmeets.lt_byteLength
        rw [Text.byteLength_eq_length_toBytes] at hroom
        exact Or.inr ⟨_, _, _, hstore, Or.inr ⟨_, hroom, hoverwrites _ hfront⟩,
          hmeets.mem_activities directory file, isFault_causeOf ..⟩

end ReportFile
end SimReport
