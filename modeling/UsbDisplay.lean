import UsbDisplay.Bench.Transfers
import UsbDisplay.Files.Tree
import UsbDisplay.Main
import UsbDisplay.Proofs.BulkTraffic
import UsbDisplay.Proofs.DamageKept
import UsbDisplay.Proofs.PictureShown
import UsbDisplay.Transfer.Parties
import UsbDisplay.Proofs.FittingFrames
import UsbDisplay.Proofs.AdapterSettings
import UsbDisplay.Proofs.KnownMode
import UsbDisplay.Proofs.SlotRuns
import UsbDisplay.Proofs.WorkerInStep
import UsbDisplay.Proofs.BufferOwnership
import UsbDisplay.Proofs.SeparateTransfers
import UsbDisplay.Proofs.TwoSlots
import UsbDisplay.Proofs.PartySteps
import UsbDisplay.Proofs.JobsInOrder
import UsbDisplay.Proofs.WatchdogInStep
import UsbDisplay.Proofs.PartiesInStep
import UsbDisplay.Proofs.PacketFormat
import UsbDisplay.Proofs.CheckedEncoding
import UsbDisplay.Proofs.ShortWrites
import UsbDisplay.Proofs.PartiesAsSlot
import UsbDisplay.Proofs.OwnOutcomes
import UsbDisplay.Proofs.LeastAlignment
import UsbDisplay.Proofs.RefusedFrames
import UsbDisplay.Proofs.FrameViews
import UsbDisplay.Proofs.SubmittedViews
import UsbDisplay.Proofs.UpdateOrder
import UsbDisplay.Proofs.PaintedExchanges
import UsbDisplay.Proofs.ModeSequence
import UsbDisplay.Proofs.RegisterAnswers
import UsbDisplay.Proofs.ModeSwitches
import UsbDisplay.Proofs.ClosedSlot
import UsbDisplay.Proofs.FleetRuns
import UsbDisplay.Proofs.LostWorkers
import UsbDisplay.Proofs.StreamedPicture
import UsbDisplay.Proofs.MergedAlignment
import UsbDisplay.Proofs.NamedRectangles
import UsbDisplay.Proofs.SignedComponents
import UsbDisplay.Proofs.ColourRoundTrip
import UsbDisplay.Proofs.AccumulatedDamage
import UsbDisplay.Proofs.SharedTokens
import UsbDisplay.Proofs.DescriptionBlocks
import UsbDisplay.Proofs.StoredBlocks
import UsbDisplay.Proofs.PictureFiles
import UsbDisplay.Proofs.WrittenFiles
import UsbDisplay.Proofs.SavedPictures
import UsbDisplay.Bench.Devices
