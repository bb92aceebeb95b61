import ChipEight.Encoding
import ChipEight.Listing
import ChipEight.Log.Progress
import ChipEight.Main
import ChipEight.Session
import ChipEight.Stamp
import ChipEight.Proofs.CallStack
import ChipEight.Proofs.Effect
import ChipEight.Proofs.InstructionTable
import ChipEight.Proofs.Cycle
import ChipEight.Proofs.Ending
import ChipEight.Proofs.History
import ChipEight.Proofs.ReachableStates
import ChipEight.Proofs.Calls
import ChipEight.Proofs.Frame
import ChipEight.Proofs.Runs
import ChipEight.Proofs.Retries
import ChipEight.Proofs.SideBySide
import ChipEight.Proofs.RandomStream
import ChipEight.Proofs.Timers
import ChipEight.Proofs.KeyWait
import ChipEight.Proofs.Replies
import ChipEight.Proofs.SoundTimer
import ChipEight.Proofs.StackRequests
import ChipEight.Proofs.Assembling
import ChipEight.Proofs.Numerals
import ChipEight.Proofs.AssemblyText
import ChipEight.Proofs.Listings
import ChipEight.Proofs.Watching
import ChipEight.Proofs.LogTrace
import ChipEight.Proofs.Drawing
import ChipEight.Proofs.Stamping
import ChipEight.Proofs.Reckoning
import ChipEight.Proofs.Superposition
import ChipEight.Proofs.RegisterBlocks
import ChipEight.Proofs.Loading
import ChipEight.Proofs.Bitmaps
import ChipEight.Proofs.ProgramFlow
import ChipEight.Proofs.ListingEnds
import ChipEight.Proofs.Pictures
import ChipEight.Proofs.ScreenTexts
import ChipEight.Proofs.LogCalls
import ChipEight.Proofs.DecimalArguments
import ChipEight.Proofs.MachineArguments
import ChipEight.Proofs.CommandLineRuns
