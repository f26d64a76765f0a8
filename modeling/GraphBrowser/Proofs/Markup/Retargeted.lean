import GraphBrowser.Markup.Display
import GraphBrowser.Proofs.Text.FormEncoded

/-!
# Surfaces with other targets

What a page has in place of the addresses of a surface can be put into the surface itself. So a page
whose links lead back to the host is the page of another surface, one whose links lead straight to
where those of the host lead.

## Main definitions

* `LinkTargets.after` — targets of targets
* `Block.retarget`, `Surface.retarget` — what is shown, with targets in place of addresses
* `Surface.withoutExpandTargets` — a surface that has forgotten where its expand controls lead

## Main statements

* `Surface.pieces_eq` — **the pieces for targets are the direct pieces of the retargeted surface**
* `Surface.retarget_retarget` — targets are put in place one after another
* `Surface.retarget_direct` — direct targets change nothing
* `Surface.retarget_hosted_eq_iff` — **the targets of the host forget about expand controls, and about
  nothing else**

## Design notes

**Rows are counted while targets are put in place**, because the target of an expand control may
depend on the number of its row.
-/

namespace GraphBrowser

/-! ### Targets -/

namespace LinkTargets

/-- What is written in place of the targets that were put in place first. -/
def after (targets first : LinkTargets) : LinkTargets where
  node url := targets.node (first.node url)
  expand row target := targets.expand row (first.expand row target)

/-- The addresses of nodes stay, and those of expand controls are forgotten. -/
def forgettingExpand : LinkTargets where
  node url := url
  expand _ _ := ""

/-- The address of a node is read back from where its link leads at the host. -/
def read : LinkTargets where
  node target := String.ofList
    (FormEncoded.decode (Utf8.encode (target.toList.drop "/navigate?url=".toList.length)))
  expand _ _ := ""

/-- **Nothing but the address of an expand control is lost at the host.** -/
theorem read_after_hosted : read.after hosted = forgettingExpand := by
  have hnode : (read.after hosted).node = forgettingExpand.node := by
    funext url
    show String.ofList (FormEncoded.decode (Utf8.encode
      (("/navigate?url=" ++ String.ofList (FormEncoded.encode url.toList)).toList.drop
        "/navigate?url=".toList.length))) = url
    rw [String.toList_append, List.drop_left, String.toList_ofList, FormEncoded.decode_encode,
      String.ofList_toList]
  show LinkTargets.mk (read.after hosted).node _ = LinkTargets.mk forgettingExpand.node _
  rw [hnode]
  rfl

/-- What the host writes for an expand control does not depend on its address. -/
theorem hosted_after_forgettingExpand : hosted.after forgettingExpand = hosted := rfl

end LinkTargets

/-! ### Putting targets in place -/

/-- One end of a relationship with a target in place of its address. -/
def Endpoint.retarget (targets : LinkTargets) : Endpoint → Endpoint
  | .thisNode label => .thisNode label
  | .link id url => .link id (targets.node url)

mutual

/-- A block with targets in place of addresses. -/
def Block.retarget (targets : LinkTargets) : Block → Block
  | .heading text => .heading text
  | .properties table => .properties table
  | .relationships ⟨mode, rows⟩ =>
    .relationships ⟨mode, RelationshipRow.retargetFrom targets 0 rows⟩

/-- The rows of a relationship table with targets in place of addresses, from the given number on. -/
def RelationshipRow.retargetFrom (targets : LinkTargets) :
    Nat → List RelationshipRow → List RelationshipRow
  | _, [] => []
  | index, ⟨start, relType, finish, none⟩ :: rest =>
    ⟨start.retarget targets, relType, finish.retarget targets, none⟩ ::
      RelationshipRow.retargetFrom targets (index + 1) rest
  | index, ⟨start, relType, finish, some ⟨target, container⟩⟩ :: rest =>
    ⟨start.retarget targets, relType, finish.retarget targets,
      some ⟨targets.expand index target, Block.retargetAll targets container⟩⟩ ::
      RelationshipRow.retargetFrom targets (index + 1) rest

/-- Consecutive blocks with targets in place of addresses. -/
def Block.retargetAll (targets : LinkTargets) : List Block → List Block
  | [] => []
  | block :: rest => block.retarget targets :: Block.retargetAll targets rest

end

namespace Surface

/-- A surface with targets in place of addresses. -/
def retarget (targets : LinkTargets) (surface : Surface) : Surface :=
  ⟨Block.retargetAll targets surface.blocks⟩

/-- A surface that has forgotten where its expand controls lead. -/
def withoutExpandTargets (surface : Surface) : Surface := surface.retarget .forgettingExpand

end Surface

/-! ### The direct pieces of a retargeted surface -/

section

variable (targets : LinkTargets)

/-- One end of a relationship is written like its retargeted one. -/
theorem Endpoint.pieces_eq (endpoint : Endpoint) :
    endpoint.pieces targets = (endpoint.retarget targets).pieces .direct := by
  cases endpoint <;> rfl

/-- So is a row up to its end node. -/
theorem RelationshipRow.leadPieces_eq (start : Endpoint) (relType : String) (finish : Endpoint) :
    leadPieces targets start relType finish =
      leadPieces .direct (start.retarget targets) relType (finish.retarget targets) := by
  rw [leadPieces, leadPieces, start.pieces_eq, finish.pieces_eq]

mutual

/-- A block is written like its retargeted one. -/
theorem Block.pieces_eq : ∀ block : Block,
    block.pieces targets = (block.retarget targets).pieces .direct
  | .heading _ => rfl
  | .properties _ => rfl
  | .relationships ⟨mode, rows⟩ => by
      simp only [Block.pieces, Block.retarget, RelationshipRow.allPieces_eq rows 0]

/-- The rows of a relationship table are written like their retargeted ones. -/
theorem RelationshipRow.allPieces_eq : ∀ (rows : List RelationshipRow) (index : Nat),
    RelationshipRow.allPieces targets index rows =
      RelationshipRow.allPieces .direct index (RelationshipRow.retargetFrom targets index rows)
  | [], _ => rfl
  | ⟨start, relType, finish, none⟩ :: rest, index => by
      simp only [RelationshipRow.allPieces, RelationshipRow.retargetFrom,
        RelationshipRow.leadPieces_eq targets start, RelationshipRow.allPieces_eq rest (index + 1)]
  | ⟨start, relType, finish, some ⟨target, container⟩⟩ :: rest, index => by
      simp only [RelationshipRow.allPieces, RelationshipRow.retargetFrom,
        RelationshipRow.leadPieces_eq targets start, Block.allPieces_eq container,
        RelationshipRow.allPieces_eq rest (index + 1)]
      rfl

/-- Consecutive blocks are written like their retargeted ones. -/
theorem Block.allPieces_eq : ∀ blocks : List Block,
    Block.allPieces targets blocks = Block.allPieces .direct (Block.retargetAll targets blocks)
  | [] => rfl
  | block :: rest => by
      simp only [Block.allPieces, Block.retargetAll, Block.pieces_eq block, Block.allPieces_eq rest]

end

/-- **The pieces for targets are the direct pieces of the retargeted surface.** -/
theorem Surface.pieces_eq (surface : Surface) :
    surface.pieces targets = (surface.retarget targets).pieces .direct :=
  Block.allPieces_eq targets surface.blocks

end

/-! ### Targets of targets -/

section

variable (targets first : LinkTargets)

theorem Endpoint.retarget_retarget (endpoint : Endpoint) :
    (endpoint.retarget first).retarget targets = endpoint.retarget (targets.after first) := by
  cases endpoint <;> rfl

mutual

/-- Targets are put in place in a block one after another. -/
theorem Block.retarget_retarget : ∀ block : Block,
    (block.retarget first).retarget targets = block.retarget (targets.after first)
  | .heading _ => rfl
  | .properties _ => rfl
  | .relationships ⟨mode, rows⟩ => by
      simp only [Block.retarget, RelationshipRow.retargetFrom_retargetFrom rows 0]

/-- So they are in the rows of a relationship table. -/
theorem RelationshipRow.retargetFrom_retargetFrom : ∀ (rows : List RelationshipRow) (index : Nat),
    RelationshipRow.retargetFrom targets index (RelationshipRow.retargetFrom first index rows) =
      RelationshipRow.retargetFrom (targets.after first) index rows
  | [], _ => rfl
  | ⟨start, relType, finish, none⟩ :: rest, index => by
      simp only [RelationshipRow.retargetFrom, Endpoint.retarget_retarget,
        RelationshipRow.retargetFrom_retargetFrom rest (index + 1)]
  | ⟨start, relType, finish, some ⟨target, container⟩⟩ :: rest, index => by
      simp only [RelationshipRow.retargetFrom, Endpoint.retarget_retarget,
        Block.retargetAll_retargetAll container,
        RelationshipRow.retargetFrom_retargetFrom rest (index + 1)]
      rfl

/-- So they are in consecutive blocks. -/
theorem Block.retargetAll_retargetAll : ∀ blocks : List Block,
    Block.retargetAll targets (Block.retargetAll first blocks) =
      Block.retargetAll (targets.after first) blocks
  | [] => rfl
  | block :: rest => by
      simp only [Block.retargetAll, Block.retarget_retarget block,
        Block.retargetAll_retargetAll rest]

end

/-- Targets are put in place in a surface one after another. -/
theorem Surface.retarget_retarget (surface : Surface) :
    (surface.retarget first).retarget targets = surface.retarget (targets.after first) :=
  congrArg Surface.mk (Block.retargetAll_retargetAll targets first surface.blocks)

end

/-! ### Direct targets -/

theorem Endpoint.retarget_direct (endpoint : Endpoint) : endpoint.retarget .direct = endpoint := by
  cases endpoint <;> rfl

mutual

/-- Direct targets leave a block as it is. -/
theorem Block.retarget_direct : ∀ block : Block, block.retarget .direct = block
  | .heading _ => rfl
  | .properties _ => rfl
  | .relationships ⟨mode, rows⟩ => by
      simp only [Block.retarget, RelationshipRow.retargetFrom_direct rows 0]

/-- They leave the rows of a relationship table as they are. -/
theorem RelationshipRow.retargetFrom_direct : ∀ (rows : List RelationshipRow) (index : Nat),
    RelationshipRow.retargetFrom .direct index rows = rows
  | [], _ => rfl
  | ⟨start, relType, finish, none⟩ :: rest, index => by
      simp only [RelationshipRow.retargetFrom, Endpoint.retarget_direct,
        RelationshipRow.retargetFrom_direct rest (index + 1)]
  | ⟨start, relType, finish, some ⟨target, container⟩⟩ :: rest, index => by
      simp only [RelationshipRow.retargetFrom, Endpoint.retarget_direct,
        Block.retargetAll_direct container, RelationshipRow.retargetFrom_direct rest (index + 1)]
      rfl

/-- They leave consecutive blocks as they are. -/
theorem Block.retargetAll_direct : ∀ blocks : List Block, Block.retargetAll .direct blocks = blocks
  | [] => rfl
  | block :: rest => by
      simp only [Block.retargetAll, Block.retarget_direct block, Block.retargetAll_direct rest]

end

namespace Surface

/-- Direct targets leave a surface as it is. -/
theorem retarget_direct (surface : Surface) : surface.retarget .direct = surface :=
  congrArg Surface.mk (Block.retargetAll_direct surface.blocks)

/-- **The targets of the host forget about expand controls, and about nothing else.** -/
theorem retarget_hosted_eq_iff (surface other : Surface) :
    surface.retarget .hosted = other.retarget .hosted ↔
      surface.withoutExpandTargets = other.withoutExpandTargets := by
  constructor
  · intro h
    have hread := congrArg (Surface.retarget .read) h
    rw [retarget_retarget, retarget_retarget, LinkTargets.read_after_hosted] at hread
    exact hread
  · intro h
    have hwritten := congrArg (Surface.retarget .hosted) h
    rw [withoutExpandTargets, withoutExpandTargets, retarget_retarget, retarget_retarget,
      LinkTargets.hosted_after_forgettingExpand] at hwritten
    exact hwritten

end Surface

end GraphBrowser
