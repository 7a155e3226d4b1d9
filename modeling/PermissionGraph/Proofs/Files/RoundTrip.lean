import PermissionGraph.Repository
import PermissionGraph.Proofs.Config
import PermissionGraph.Proofs.Files.Write
import PermissionGraph.Proofs.Yaml.Comment
import PermissionGraph.Proofs.Yaml.Reading

/-!
# Loading what was saved

A configuration that was saved in a file is found again there, whatever its entries are. It is loaded
where each of them names a node, and refused for the first that does not.
-/

namespace PermissionGraph

open Text

namespace FileRepository

open Config

variable {path : Files.Path} {c : Config} {files files' : Files.Tree}

theorem load_of_written (hfound : files.holds path = true)
    (hread : files.read path = .ok (DefaultsFile.render c)) :
    load path files = c.validate.map fun _ => c := by
  have hrender := DefaultsFile.read_render (DefaultsFile.parse_body c)
  simp only [load, hfound, hread, hrender]
  cases hvalid : c.validate <;> simp [hvalid, bind, Except.bind, Except.map, pure, Except.pure]

theorem written_of_save (h : save path c files = (.ok (), files')) :
    files'.holds path = true ∧ files'.read path = .ok (DefaultsFile.render c) := by
  rw [save] at h
  split at h
  · next written hwrite =>
    obtain rfl : written = files' := congrArg Prod.snd h
    exact Files.Tree.read_of_write hwrite
  · cases h

theorem load_save (h : save path c files = (.ok (), files')) :
    (c.Named → load path files' = .ok c) ∧
      (∀ before entry after, c.defaults = before ++ entry :: after →
        (∀ e ∈ before, namesNothing e = false) → namesNothing entry = true →
          load path files' =
            .error (.configuration ("Invalid default permission entry: " ++ quoted entry))) ∧
      files'.read path = .ok (DefaultsFile.header ++ DefaultsFile.body c) ∧
      DefaultsFile.read (DefaultsFile.header ++ DefaultsFile.body c) =
        DefaultsFile.read (DefaultsFile.body c) ∧
      ∀ text, DefaultsFile.parse (DefaultsFile.header ++ text) = DefaultsFile.parse text := by
  obtain ⟨hfound, hread⟩ := written_of_save h
  have hload := load_of_written hfound hread
  refine ⟨fun hnamed => ?_, fun before entry after hdefaults hbefore hentry => ?_, hread, ?_,
    DefaultsFile.parse_header⟩
  · rw [hload, validate_of_named hnamed]
    rfl
  · rw [hload, validate_of_unnamed hdefaults hbefore hentry]
    rfl
  · have hbody := DefaultsFile.parse_body c
    rw [DefaultsFile.read_body, hbody]
    exact DefaultsFile.read_render hbody

/-- Entries that look like other things are kept as they are, and of two that name nothing the first
is reported. -/
theorem load_save_lookalikes :
    let path : Files.Path := ⟨["conf", "permissions.yml"]⟩
    let c : Config := ⟨false, ["null", "-0x1F", "a: 'b' # c", "--- |+", "fly\n\n", "\t\u0085\""]⟩
    let d : Config := ⟨true, ["fly", "-\n", " "]⟩
    (save path c .empty).1 = .ok () ∧ (save path d .empty).1 = .ok () ∧
      load path (save path c .empty).2 = .ok c ∧
      load path (save path d .empty).2 =
        .error (.configuration "Invalid default permission entry: \"-\\n\"") := by
  intro path c d
  have hsaved : (save path c .empty).1 = .ok () := by decide +kernel
  have hsaved' : (save path d .empty).1 = .ok () := by decide +kernel
  have hnamed : c.Named := by
    unfold Named
    decide +kernel
  have hfly : ∀ e ∈ ["fly"], namesNothing e = false := by decide +kernel
  have hbreak : namesNothing "-\n" = true := by decide +kernel
  have hmessage : "Invalid default permission entry: " ++ quoted "-\n" =
      "Invalid default permission entry: \"-\\n\"" := by decide +kernel
  refine ⟨hsaved, hsaved', ?_, ?_⟩
  · exact (load_save (Prod.ext hsaved rfl)).1 hnamed
  · rw [← hmessage]
    exact (load_save (Prod.ext hsaved' rfl)).2.1 ["fly"] "-\n" [" "] rfl hfly hbreak

end FileRepository

end PermissionGraph
