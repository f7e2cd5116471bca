import PicoScripts.Base.Text
import PicoScripts.Base.Bytes
import PicoScripts.Base.Script
import PicoScripts.Checksum.Crc32
import PicoScripts.Checksum.Nm
import PicoScripts.Checksum.Readelf
import PicoScripts.Checksum.Patch
import PicoScripts.Checksum.PatchBinary
import PicoScripts.Checksum.Main
import PicoScripts.Checksum.Image
import PicoScripts.Flake.Stats
import PicoScripts.Flake.Summary
import PicoScripts.Flake.Pool
import PicoScripts.Debug.Translation
import PicoScripts.Debug.Formatters
import PicoScripts.Udp.EchoServer
