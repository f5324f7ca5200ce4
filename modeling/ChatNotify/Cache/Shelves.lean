import ChatNotify.Cache.Plan
import ChatNotify.Cache.Settings
import ChatNotify.Cache.Shelf

namespace ChatNotify.Cache

/-- A shelf for every namespace. -/
structure Shelves where
  lastPostTime : Shelf Id Instant
  posts : Shelf (Id × Nat) PostList
  fileInfos : Shelf (Id × Bool) (List File)
  memberCounts : Shelf Id Nat

namespace Shelves

/-- Empty shelves. -/
def create (settings : Settings) : Shelves :=
  { lastPostTime := .create _ (settings.ttl .lastPostTime) (settings.capacity_pos .lastPostTime)
    posts := .create _ (settings.ttl .posts) (settings.capacity_pos .posts)
    fileInfos := .create _ (settings.ttl .fileInfos) (settings.capacity_pos .fileInfos)
    memberCounts := .create _ (settings.ttl .memberCounts) (settings.capacity_pos .memberCounts) }

/-- The shelf of a namespace. -/
def shelf (shelves : Shelves) : (space : Namespace) → Shelf space.Key space.Value
  | .lastPostTime => shelves.lastPostTime
  | .posts => shelves.posts
  | .fileInfos => shelves.fileInfos
  | .memberCounts => shelves.memberCounts

/-- Gives a namespace another shelf. -/
def replace (shelves : Shelves) :
    (space : Namespace) → Shelf space.Key space.Value → Shelves
  | .lastPostTime, shelf => { shelves with lastPostTime := shelf }
  | .posts, shelf => { shelves with posts := shelf }
  | .fileInfos, shelf => { shelves with fileInfos := shelf }
  | .memberCounts, shelf => { shelves with memberCounts := shelf }

/-- Changes the shelf of a namespace. -/
def modify (shelves : Shelves) (space : Namespace)
    (change : Shelf space.Key space.Value → Shelf space.Key space.Value) : Shelves :=
  shelves.replace space (change (shelves.shelf space))

@[simp] theorem shelf_replace_self (shelves : Shelves) (space : Namespace)
    (value : Shelf space.Key space.Value) : (shelves.replace space value).shelf space = value := by
  cases space <;> rfl

theorem shelf_replace_of_ne (shelves : Shelves) {space other : Namespace} (h : other ≠ space)
    (value : Shelf space.Key space.Value) :
    (shelves.replace space value).shelf other = shelves.shelf other := by
  cases space <;> cases other <;> simp_all [shelf, replace]

/-- What holds of the new shelf and of the others holds of all. -/
theorem forall_shelf_replace {P : (space : Namespace) → Shelf space.Key space.Value → Prop} (shelves : Shelves)
    {space : Namespace} {value : Shelf space.Key space.Value} (hself : P space value)
    (hothers : ∀ other, other ≠ space → P other (shelves.shelf other)) (other : Namespace) :
    P other ((shelves.replace space value).shelf other) := by
  by_cases hother : other = space
  · subst hother
    rw [shelf_replace_self]
    exact hself
  · rw [shelf_replace_of_ne shelves hother]
    exact hothers other hother

/-- The operation reaches the shelf of the namespace. -/
@[simp] theorem shelf_modify_self (shelves : Shelves) (space : Namespace)
    (change : Shelf space.Key space.Value → Shelf space.Key space.Value) :
    (shelves.modify space change).shelf space = change (shelves.shelf space) := by
  simp [modify]

/-- The operation leaves the other shelves as they are. -/
theorem shelf_modify_of_ne (shelves : Shelves) {space other : Namespace} (h : other ≠ space)
    (change : Shelf space.Key space.Value → Shelf space.Key space.Value) :
    (shelves.modify space change).shelf other = shelves.shelf other :=
  shelves.shelf_replace_of_ne h _

/-- Drops all values of a namespace. -/
def clear (shelves : Shelves) (space : Namespace) : Shelves :=
  shelves.modify space Shelf.clear

/-- Drops a target. The posts of a channel are dropped for every page size. -/
def invalidate (shelves : Shelves) : Target → Shelves
  | .lastPostTime channel => shelves.modify .lastPostTime (·.invalidate channel)
  | .posts channel =>
    shelves.modify .posts fun shelf =>
      pageSizes.foldl (fun shelf size => shelf.invalidate (channel, size)) shelf
  | .fileInfos post withDeleted => shelves.modify .fileInfos (·.invalidate (post, withDeleted))
  | .memberCount channel => shelves.modify .memberCounts (·.invalidate channel)
  | .all space => shelves.clear space

/-- Drops all values of all namespaces. -/
def clearAll (shelves : Shelves) : Shelves :=
  Namespace.all.foldl clear shelves

/-- Carries out a plan. -/
def apply (shelves : Shelves) (plan : InvalidationPlan) : Shelves :=
  plan.targets.foldl invalidate (plan.cleared.foldl clear shelves)

end Shelves

end ChatNotify.Cache
