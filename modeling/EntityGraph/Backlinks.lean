import EntityGraph.SystemType

namespace EntityGraph

structure Backlinks where
  components : Catalog (List String)
  systems : Catalog (List String)

namespace Backlinks

def empty : Backlinks := ⟨.empty, .empty⟩

def addAll (user : String) (links : Catalog (List String)) (targets : List String) :
    Catalog (List String) :=
  targets.foldl (fun c target => c.upsert target fun users => users.getD [] ++ [user]) links

def record (b : Backlinks) (s : SystemType) : Backlinks where
  components := addAll s.name b.components s.componentTypes
  systems := addAll s.name b.systems s.usesSystems

def ofSystems (systems : List SystemType) : Backlinks :=
  systems.foldl record empty

def componentUsers (b : Backlinks) (component : String) : List String :=
  (b.components.find? component).getD []

def systemUsers (b : Backlinks) (system : String) : List String :=
  (b.systems.find? system).getD []

theorem ofSystems_append (xs ys : List SystemType) :
    ofSystems (xs ++ ys) = ys.foldl record (ofSystems xs) := by
  simp [ofSystems]

end Backlinks

end EntityGraph
