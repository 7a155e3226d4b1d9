import PermissionGraph.DefaultsFile
import PermissionGraph.Files
import PermissionGraph.Overlay

/-!
# Repositories of configurations

A repository keeps one configuration, in memory or in a file of a file tree. A repository in memory
can be made to refuse loads and saves; one in a file answers with the initial configuration as long
as there is no file.
-/

namespace PermissionGraph

open Files

abbrev RepositoryId := Nat

structure MemoryRepository where
  config : Config
  saves : Nat
  refusesLoad : Bool
  refusesSave : Bool

inductive Repository
  | memory (m : MemoryRepository)
  | file (path : Path)

namespace MemoryRepository

def load (m : MemoryRepository) : Except Failure Config :=
  if m.refusesLoad then .error (.configuration "unreadable") else .ok m.config

def save (m : MemoryRepository) (config : Config) : Except Failure Unit × MemoryRepository :=
  if m.refusesSave then (.error (.internal "unwritable"), m)
  else (.ok (), { m with config, saves := m.saves + 1 })

end MemoryRepository

namespace FileRepository

def fileName : String := "permissions.yml"

def under (directory : Path) : Path := directory.join fileName

def load (path : Path) (files : Tree) : Except Failure Config :=
  if !files.holds path then .ok Config.initial
  else
    match files.read path with
    | .error e => .error (.file e)
    | .ok text => do
      let config ← DefaultsFile.read text
      config.validate
      return config

def save (path : Path) (config : Config) (files : Tree) : Except Failure Unit × Tree :=
  match files.write path (.text (DefaultsFile.render config)) with
  | (.ok (), files) => (.ok (), files)
  | (.error e, files) => (.error (.file e), files)

end FileRepository

structure Store where
  repositories : Array Repository
  files : Tree

namespace Store

def load (s : Store) (r : RepositoryId) : Except Failure Config :=
  match s.repositories[r]? with
  | some (.memory m) => m.load
  | some (.file path) => FileRepository.load path s.files
  | none => .ok Config.initial

def save (s : Store) (r : RepositoryId) (config : Config) : Except Failure Unit × Store :=
  match s.repositories[r]? with
  | some (.memory m) =>
    let (result, m) := m.save config
    (result, { s with repositories := s.repositories.setIfInBounds r (.memory m) })
  | some (.file path) =>
    let (result, files) := FileRepository.save path config s.files
    (result, { s with files })
  | none => (.ok (), s)

def setRefusals (s : Store) (r : RepositoryId) (load save : Bool) : Store :=
  match s.repositories[r]? with
  | some (.memory m) =>
    let m := { m with refusesLoad := load, refusesSave := save }
    { s with repositories := s.repositories.setIfInBounds r (.memory m) }
  | _ => s

def storage (r : RepositoryId) : Storage Store where
  load s := (s.load r, s)
  save config s := s.save r config

end Store

end PermissionGraph
