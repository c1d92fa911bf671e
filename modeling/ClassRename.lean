import ClassRename.ClassFile.Edit
import ClassRename.Main
import ClassRename.Proofs.Body.Obscuring
import ClassRename.Proofs.Body.Promotion
import ClassRename.Proofs.ClassFile.Assembling
import ClassRename.Proofs.ClassFile.Relocation
import ClassRename.Proofs.ClassFile.StackMap
import ClassRename.Proofs.ClassFile.TableFrame
import ClassRename.Proofs.ClassFile.Untouched
import ClassRename.Proofs.Command.ArchiveEntries
import ClassRename.Proofs.Command.Prediction
import ClassRename.Proofs.Cursor
import ClassRename.Proofs.Descriptor
import ClassRename.Proofs.Pool.Answers
import ClassRename.Proofs.Pool.TextEntries
import ClassRename.Proofs.Rename.Differences
import ClassRename.Proofs.Rename.Moving
import ClassRename.Proofs.Rename.Repeating
