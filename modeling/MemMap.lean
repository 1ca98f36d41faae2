import MemMap.Config.Yaml
import MemMap.Main
import MemMap.Proofs.ExactSize
import MemMap.Proofs.Grammar
import MemMap.Proofs.Inline
import MemMap.Proofs.Layout
import MemMap.Proofs.Names
import MemMap.Proofs.Places
import MemMap.Proofs.Readable
import MemMap.Proofs.Rerun
import MemMap.Proofs.Responses
import MemMap.Proofs.Run
import MemMap.Proofs.Spelling
import MemMap.Proofs.Warnings
import MemMap.Proofs.Writing
import MemMap.Proofs.Order
import MemMap.Proofs.FirstFault
import MemMap.Proofs.TypeForms
import MemMap.Proofs.Loading
import MemMap.Proofs.Growth
import MemMap.Proofs.Append
import MemMap.Proofs.Renaming
import MemMap.Proofs.Notes
import MemMap.Proofs.RunLog
import MemMap.Proofs.JsonForms
import MemMap.Proofs.PathWords
import MemMap.Proofs.EntryLines
import MemMap.Proofs.YamlForm
