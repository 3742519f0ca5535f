import ShaderFilm.CommandLine.Exit
import ShaderFilm.Main
import ShaderFilm.Proofs.Encoder.Life
import ShaderFilm.Proofs.Encoder.Output
import ShaderFilm.Proofs.Encoder.Streaming
import ShaderFilm.Proofs.Render.Rows
import ShaderFilm.Proofs.Shader.Identifier
import ShaderFilm.Proofs.Shader.Selection
import ShaderFilm.Proofs.Shader.Statement
import ShaderFilm.Proofs.Shader.Uncommented
import ShaderFilm.Proofs.Shader.WellFormed
import ShaderFilm.Shader.Listing
import ShaderFilm.Shell.Host
import ShaderFilm.Proofs.Device.Uniform
import ShaderFilm.Proofs.CommandLine.Order
import ShaderFilm.Proofs.CommandLine.Plan
import ShaderFilm.Proofs.CommandLine.Precedence
import ShaderFilm.Proofs.Shader.Usage
import ShaderFilm.Proofs.Number.Value
import ShaderFilm.Proofs.CommandLine.Duration
import ShaderFilm.Proofs.Time.Seconds
import ShaderFilm.Proofs.CommandLine.Agreement
import ShaderFilm.Proofs.Render.Progress
import ShaderFilm.Proofs.Render.Views
import ShaderFilm.Proofs.Shader.LineBreak
import ShaderFilm.Proofs.Render.Length
import ShaderFilm.Proofs.Render.Slots
import ShaderFilm.Proofs.Encoder.Arguments
import ShaderFilm.Proofs.CommandLine.DefaultOutput
import ShaderFilm.Proofs.Text.Place
import ShaderFilm.Proofs.Encoder.Profile
import ShaderFilm.Proofs.Shader.Listing
import ShaderFilm.Proofs.Shader.Search
import ShaderFilm.Proofs.Shader.Matching
import ShaderFilm.Proofs.Render.Turning
