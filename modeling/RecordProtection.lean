import RecordProtection.Protector
import RecordProtection.Summary
import RecordProtection.Text.Hex
import RecordProtection.Proofs.CbcAcceptance
import RecordProtection.Proofs.Connection
import RecordProtection.Proofs.Datagram
import RecordProtection.Proofs.Reached
import RecordProtection.Proofs.Rejected
import RecordProtection.Proofs.Installation
import RecordProtection.Proofs.KeyUpdate
import RecordProtection.Proofs.BigEndian
import RecordProtection.Proofs.SequenceBlock
import RecordProtection.Proofs.WriteHistory
import RecordProtection.Proofs.Outputs
import RecordProtection.Proofs.NonceFreshness
import RecordProtection.Proofs.RecordSize
import RecordProtection.Proofs.SealMachine
import RecordProtection.Proofs.Block.Counting
import RecordProtection.Proofs.Keystream
import RecordProtection.Proofs.MarkedNumbers
import RecordProtection.Proofs.ReadHistory
import RecordProtection.Proofs.HeldTree
import RecordProtection.Proofs.Bounds.Protector
import RecordProtection.Proofs.SealPieces
import RecordProtection.Proofs.Lineage
import RecordProtection.Proofs.SealLanguage
import RecordProtection.Proofs.Destruction
import RecordProtection.Proofs.Transcript
import RecordProtection.Proofs.Multilinear
import RecordProtection.Proofs.CounterBlocks
import RecordProtection.Mode.Sealed
import RecordProtection.Proofs.CanonicalRecords
import RecordProtection.StatefulMode
import RecordProtection.Proofs.StatefulMode
import RecordProtection.Proofs.ModeReset
import RecordProtection.Proofs.RecordCounter
import RecordProtection.Proofs.KeyBlock
import RecordProtection.Proofs.RecordHeader
import RecordProtection.Proofs.PlaintextSize
import RecordProtection.Proofs.InnerPlaintext
import RecordProtection.Proofs.PrfStream
import RecordProtection.Proofs.ChainedRecords
import RecordProtection.Proofs.FailedDerivations
import RecordProtection.Proofs.Block.Seed
import RecordProtection.Proofs.PaddingGrammar
import RecordProtection.Proofs.LabelEncoding
import RecordProtection.Proofs.Field.Polynomial
import RecordProtection.Proofs.Field.Product
import RecordProtection.Proofs.Field.Modulus
import RecordProtection.Proofs.Field.Laws
