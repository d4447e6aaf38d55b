import AccessFeed.NameSet

/-! Namespaces as the directory holds them, and projects, the view of them that consumers get. -/
namespace AccessFeed

structure Namespace where
  name : String
  labels : NameMap String
  annotations : NameMap String
  phase : String
  deriving DecidableEq

/-- The client-facing view of a namespace. -/
structure Project where
  name : String
  labels : NameMap String
  annotations : NameMap String
  phase : String
  deriving DecidableEq

namespace Namespace

/-- The phase of a namespace that serves normally. -/
def activePhase : String := "Active"

/-- A namespace that serves normally and carries no labels or annotations. -/
def active (name : String) : Namespace := ⟨name, ∅, ∅, activePhase⟩

instance : Inhabited Namespace := ⟨active ""⟩

/-- Binds a label, replacing an earlier value of the same key. -/
def label (object : Namespace) (key value : String) : Namespace :=
  { object with labels := object.labels.insert key value }

/-- Binds an annotation, replacing an earlier value of the same key. -/
def annotate (object : Namespace) (key value : String) : Namespace :=
  { object with annotations := object.annotations.insert key value }

/-- The view of a namespace that is sent to consumers. -/
def project (object : Namespace) : Project :=
  ⟨object.name, object.labels, object.annotations, object.phase⟩

end Namespace

namespace Project

/-- A project that carries only its name, as sent when access is lost. -/
def named (name : String) : Project := ⟨name, ∅, ∅, ""⟩

instance : Inhabited Project := ⟨named ""⟩

end Project

end AccessFeed
