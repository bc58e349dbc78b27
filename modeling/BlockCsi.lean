import BlockCsi.Go.Strings
import BlockCsi.Go.Filepath
import BlockCsi.Go.Glob
import BlockCsi.Node.Host
import BlockCsi.Node.Rescan
import BlockCsi.Node.WaitForPathProperties
import BlockCsi.Node.MultipathDiskProperties
import BlockCsi.Node.MpathDeviceProperties
import BlockCsi.Node.SessionHostProperties
import BlockCsi.Node.RemoveDeviceProperties
import BlockCsi.Node.ByPathPatternProperties
import BlockCsi.Node.FlushConcurrency
import BlockCsi.Node.FlushProgress
import BlockCsi.Node.FsHost
