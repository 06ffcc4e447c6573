import RecordFilter.Console
import RecordFilter.Dump
import RecordFilter.Settings.File
import RecordFilter.Proofs.Compatibility
import RecordFilter.Proofs.Reversal
import RecordFilter.Proofs.Intervals
import RecordFilter.Proofs.Discovery
import RecordFilter.Proofs.Caching
import RecordFilter.Proofs.FieldOrder
import RecordFilter.Proofs.NullEnds
import RecordFilter.Proofs.WellFormed
import RecordFilter.Proofs.Commutation
import RecordFilter.Proofs.Containment
import RecordFilter.Proofs.Strings
import RecordFilter.Proofs.Folding
import RecordFilter.Proofs.Classification
import RecordFilter.Proofs.Legality
import RecordFilter.Proofs.TotalOrder
import RecordFilter.Proofs.OwnType
import RecordFilter.Proofs.Lines
