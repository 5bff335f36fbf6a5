import MipTexture.Stream.Session
import MipTexture.TextureFile
import MipTexture.Imaging.Plain
import MipTexture.EnvLoader.Plain
import MipTexture.Proofs.ChainForm
import MipTexture.Proofs.LevelOffsets
import MipTexture.Proofs.SoundDecode
import MipTexture.Proofs.SoundFile
import MipTexture.Proofs.Defect
import MipTexture.Proofs.Partition
import MipTexture.Proofs.FaultyDecode
import MipTexture.Proofs.ObservedBytes
import MipTexture.Proofs.CallFailures
import MipTexture.Proofs.Reports
import MipTexture.Proofs.BoundaryModes
import MipTexture.Proofs.Ownership
import MipTexture.Proofs.SessionInvariant
import MipTexture.Proofs.ExactChain
import MipTexture.Proofs.LevelBytes
import MipTexture.Proofs.DecodedLevels
import MipTexture.Proofs.PlainImaging
import MipTexture.Proofs.BlockRasters
import MipTexture.Proofs.RawRasters
import MipTexture.Proofs.ChainLength
import MipTexture.Proofs.PathText
import MipTexture.Proofs.PlaceholderJoin
import MipTexture.Proofs.PlainLines
import MipTexture.Proofs.Precedence
import MipTexture.Proofs.FileRequests
import MipTexture.Proofs.RestatedSettings
import MipTexture.Proofs.DecodeLog
import MipTexture.Proofs.TxiBoundary
import MipTexture.Proofs.ConsecutiveLevels
import MipTexture.Proofs.DefaultPictures
import MipTexture.Proofs.PositionRestored
